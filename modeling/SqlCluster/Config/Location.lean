import SqlCluster.Text.Quoted
import SqlCluster.Url

/-!
Locations: a connection URL cut into its parts, with escapes undone. The parts are taken as they
are and not put into a normal form, apart from the scheme and the host, which are in lower case. A
host may be any text; only what stands in brackets must be an address of version 6 or of a version
yet to come.
-/

namespace SqlCluster

open Text Url

/-- Where to connect: the parts of a connection URL. The port is zero where none is given. -/
structure Location where
  scheme : List Char
  user : List Char
  password : List Char
  host : List Char
  port : Nat
  parameters : List (List Char × List Char)
  deriving DecidableEq, Repr

/-- Why a connection URL cannot be cut into parts. -/
inductive LocationError where
  | brackets
  | futureAddress
  | notAnAddress (host : List Char)
  | bracketedV4
  | hiddenDelimiter (authority : List Char)
  | portNotANumber (port : List Char)
  | portTooLong (digits : Nat)
  | portOutOfRange
  deriving DecidableEq, Repr

/-- A cause in words. -/
def LocationError.message : LocationError → String
  | brackets => "Invalid IPv6 URL"
  | futureAddress => "IPvFuture address is invalid"
  | notAnAddress host =>
    Text.quoted (String.ofList host) ++ " does not appear to be an IPv4 or IPv6 address"
  | bracketedV4 => "An IPv4 address cannot be in brackets"
  | hiddenDelimiter authority =>
    "netloc '" ++ String.ofList authority ++
      "' contains invalid characters under NFKC normalization"
  | portNotANumber port =>
    "Port could not be cast to integer value as " ++ Text.quoted (String.ofList port)
  | portTooLong digits => Numeral.tooLongToRead digits
  | portOutOfRange => "Port out of range 0-65535"

namespace Location

/-- What is wrong with a host that stands in brackets. -/
def hostFault? (host : List Char) : Option LocationError :=
  if host.head? = some 'v' then if isFutureAddress host then none else some .futureAddress
  else
    let (address, zone) := (cutFirst? '%' host).getD (host, ['0'])
    match IpAddress.ofText? address with
    | none => some (.notAnAddress host)
    | some (.v4 _) => some (if host.contains '%' then .notAnAddress host else .bracketedV4)
    | some (.v6 _) =>
      if zone.isEmpty ∨ zone.contains '%' then some (.notAnAddress host) else none

/-- What is wrong with the brackets in an authority. -/
def bracketFault? (authority : List Char) : Option LocationError :=
  if authority.contains '[' != authority.contains ']' then some .brackets
  else if !authority.contains '[' then none
  else match Authority.bracketed? authority with
    | some host => hostFault? host
    | none => some .brackets

/-- What is wrong with an authority. -/
def fault? (authority : List Char) : Option LocationError :=
  match bracketFault? authority with
  | some fault => some fault
  | none =>
    if holdsNoHiddenDelimiter authority then none else some (.hiddenDelimiter authority)

/-- The number of a port, zero where the text is empty. -/
def readPort (port : List Char) : Except LocationError Nat :=
  if port.isEmpty then .ok 0
  else if !port.all Char.isDigit then .error (.portNotANumber port)
  else if Numeral.digitLimit < port.length then .error (.portTooLong port.length)
  else if Numeral.digitsValue port ≤ 65535 then .ok (Numeral.digitsValue port)
  else .error .portOutOfRange

/-- A host in lower case, but for its zone. -/
def lowerHost (host : List Char) : List Char :=
  match cutFirst? '%' host with
  | some (name, zone) => lower name ++ '%' :: zone
  | none => lower host

/-- The user and the password of an authority, with escapes undone. -/
def credentials (authority : List Char) : List Char × List Char :=
  match cutLast? '@' authority with
  | some (text, _) =>
    let (user, password) := cutAt ':' text
    (unquoteLossy user, unquoteLossy password)
  | none => ([], [])

/-- A name or value of a parameter, with escapes undone and spaces for plus signs. -/
def formText (s : List Char) : List Char :=
  unquoteLossy (s.map fun c => if c = '+' then ' ' else c)

/-- The parameters of a query by name and value; one without a sign of equality has no value. -/
def readParameters (query : List Char) : List (List Char × List Char) :=
  ((parts '&' query).filter fun p => !p.isEmpty).map fun p =>
    let (name, value) := cutAt '=' p
    (formText name, formText value)

/-- Cuts a connection URL into its parts. -/
def ofText (s : List Char) : Except LocationError Location := do
  let (scheme, rest) := cutScheme (stripped s)
  let (authority, rest) := cutAuthority rest
  match fault? authority with
  | some fault => .error fault
  | none =>
    let (host, portText) := Authority.cutPort (Authority.place authority)
    let port ← readPort portText
    let (user, password) := credentials authority
    return {
      scheme := scheme
      user := user
      password := password
      host := lowerHost host
      port := port
      parameters := readParameters (cutAt '?' (cutAt '#' rest).1).2 }

end Location

end SqlCluster
