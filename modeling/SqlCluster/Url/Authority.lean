import SqlCluster.Number.Numeral
import SqlCluster.Text.Numeric
import SqlCluster.Url.HostName
import SqlCluster.Url.IpAddress

/-!
Authorities: the part of a URL that names the host, with a user, a password and a port where they
are given. A host is an internet address in its compressed form, one of version 6 in brackets, or a
name in ASCII and lower case.
-/

namespace SqlCluster.Url

open Text

/-- The parts of an authority, quoted as they are written. -/
structure Authority where
  user : Option (List Char)
  password : Option (List Char)
  host : List Char
  port : Option Nat
  deriving DecidableEq, Repr

namespace Authority

/-- The authority of a URL that has none. -/
def absent : Authority := ⟨none, none, [], none⟩

/-- The credentials of an authority as they are written. -/
def credentials (a : Authority) : List Char :=
  match a.user, a.password with
  | none, none => []
  | user, some password => user.getD [] ++ ':' :: password ++ ['@']
  | some user, none => if user.isEmpty then [] else user ++ ['@']

/-- The port of an authority as it is written. -/
def portText (a : Authority) : List Char :=
  match a.port with
  | some port => ':' :: Nat.toDigits 10 port
  | none => []

/-- An authority as it is written. -/
def text (a : Authority) : List Char := a.credentials ++ a.host ++ a.portText

/-- Whether an authority names anything. -/
def isPresent (a : Authority) : Bool := !a.text.isEmpty

/-- The host of an authority without brackets. -/
def bareHost (a : Authority) : List Char :=
  if a.host.contains '[' then (a.host.drop 1).dropLast else a.host

/-- A bare host as it is written. -/
def written (host : List Char) : List Char :=
  if host.contains ':' then '[' :: host ++ [']'] else host

/-- The host and the port of a written authority, without its credentials. -/
def place (s : List Char) : List Char := ((cutLast? '@' s).map Prod.snd).getD s

/-- The host that must be an address, in a written authority with brackets: the one in the brackets,
where nothing stands in front of them and at most a port behind. A host without brackets is meant
where only the credentials have any. -/
def bracketed? (s : List Char) : Option (List Char) :=
  match cutFirst? '[' (place s) with
  | some (before, inner) =>
    let (host, behind) := (cutFirst? ']' inner).getD (inner, [])
    if before.isEmpty ∧ (behind.isEmpty ∨ behind.head? = some ':') then some host else none
  | none => some ((cutFirst? ':' (place s)).getD (place s, [])).1

/-- The host and the port behind the credentials, as they are written. Behind a closing bracket
only the part from a colon on counts. -/
def cutPort (s : List Char) : List Char × List Char :=
  match cutFirst? '[' s with
  | some (_, inner) =>
    match cutFirst? ']' inner with
    | some (host, rest) => (host, ((cutFirst? ':' rest).map Prod.snd).getD [])
    | none => (inner, [])
  | none => (cutFirst? ':' s).getD (s, [])

/-- The port of a text; none at all if the text is empty. -/
def port? (s : List Char) : Option (Option Nat) :=
  if s.isEmpty then some none
  else match Numeral.readInt? s with
    | some n => if 0 ≤ n ∧ n ≤ 65535 then some (some n.toNat) else none
    | none => none

/-- A text that is not empty. -/
def nonempty? (s : List Char) : Option (List Char) := if s.isEmpty then none else some s

/-- Cuts an authority into its parts as they are written, its host without brackets. The last `@`
ends the credentials, and their first colon the user. -/
def ofText? (s : List Char) : Option Authority := do
  let (credentials, rest) := match cutLast? '@' s with
    | some (a, b) => (some a, b)
    | none => (none, s)
  let (user, password) := match credentials with
    | none => (none, none)
    | some a => match cutFirst? ':' a with
      | some (u, p) => (nonempty? u, some p)
      | none => (nonempty? a, none)
  let (host, port) := cutPort rest
  some ⟨user, password, host, ← port? port⟩

/-- The authority as it is read again from its text. For a host that was written in brackets but is
no address this is another one, or none. -/
def reread? (a : Authority) : Option Authority :=
  (ofText? a.text).map fun b => { b with host := written b.host }

end Authority

namespace Host

/-- Whether a host looks like an address: it ends in a digit or has a colon. -/
def looksNumeric (s : List Char) : Bool :=
  s.getLast?.any isDigitLike || s.contains ':'

/-- The compressed form of a host that is an address, with its zone. -/
def address? (s : List Char) : Option (List Char) :=
  if looksNumeric s then
    let (ip, zone) := match cutFirst? '%' s with
      | some (ip, zone) => (ip, '%' :: zone)
      | none => (s, [])
    (IpAddress.ofText? ip).map fun
      | .v4 bytes => (IpAddress.v4 bytes).text ++ zone
      | .v6 groups => '[' :: (IpAddress.v6 groups).text ++ zone ++ [']']
  else none

/-- Whether a text begins with two lower-case hexadecimal digits. -/
def beginsEscaped : List Char → Bool
  | a :: b :: _ => lowerHex a && lowerHex b
  | _ => false
where
  /-- Whether a character is a lower-case hexadecimal digit. -/
  lowerHex (c : Char) : Bool := ('0' ≤ c && c ≤ '9') || ('a' ≤ c && c ≤ 'f')

/-- Whether a lower-case text is a registered name: letters, digits, some signs, and escapes. -/
def isName : List Char → Bool
  | [] => true
  | c :: s =>
    (HostName.isNameChar c || (c == '%' && beginsEscaped s)) && isName s

/-- A host as it is written in a URL. Where it is checked, a host in ASCII must be an address or a
name. -/
def encode? (checked : Bool) (s : List Char) : Option (List Char) :=
  match address? s with
  | some t => some t
  | none =>
    if HostName.isAscii s then
      let t := s.map Char.toLower
      if checked ∧ !isName t then none else some t
    else HostName.toAscii? s

/-- An address as text. The percent sign in front of its zone may be escaped in a URL. -/
def zoneText (s : List Char) : List Char :=
  match cutFirst? '%' s with
  | some (ip, '2' :: '5' :: zone) => if ip.contains ':' then ip ++ '%' :: zone else s
  | _ => s

/-- The text of a host from its form in a URL, without brackets. -/
def decode? (s : List Char) : Option (List Char) :=
  if looksNumeric s then some (zoneText s) else HostName.ofAscii? s

end Host

end SqlCluster.Url
