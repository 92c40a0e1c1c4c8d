import SqlCluster.Url.Authority
import SqlCluster.Url.Percent

/-!
URLs: reading them from text, building them from parts and writing them. Reading normalizes: the
scheme and the host are put in lower case, each part is quoted the way its own rules say, and dot
segments are taken out of a path behind an authority. The port that a scheme implies is not written.
-/

namespace SqlCluster

open Text Url

/-- A URL, its parts quoted as they are written. -/
structure Url where
  scheme : List Char
  authority : Authority
  path : List Char
  query : List Char
  fragment : List Char
  deriving DecidableEq, Repr

namespace Url

/-! ### Paths -/

/-- Takes dot segments out of a path, given by its segments: one dot stays where it is, two go back
one segment, and the segments already passed come last first. -/
def resolve (passed : List (List Char)) : List (List Char) → List (List Char)
  | [] => passed.reverse
  | s :: ss =>
    if s = ['.', '.'] then resolve passed.tail ss
    else if s = ['.'] then resolve passed ss
    else resolve (s :: passed) ss

/-- The segments of a path without dot segments; where the last one was such, the path ends in a
slash. -/
def resolved (segments : List (List Char)) : List (List Char) :=
  let last := segments.getLast?
  resolve [] segments ++ if last = some ['.'] ∨ last = some ['.', '.'] then [[]] else []

/-- A path without dot segments. -/
def normalizePath (path : List Char) : List Char :=
  match path with
  | '/' :: p => '/' :: ['/'].intercalate (resolved (parts '/' p))
  | p => ['/'].intercalate (resolved (parts '/' p))

/-- A path without dot segments, where there are any dots. -/
def cleanPath (path : List Char) : List Char :=
  if path.contains '.' then normalizePath path else path

/-! ### Schemes -/

/-- The port that a scheme implies. -/
def defaultPort? (scheme : List Char) : Option Nat :=
  if scheme = "http".toList ∨ scheme = "ws".toList then some 80
  else if scheme = "https".toList ∨ scheme = "wss".toList then some 443
  else if scheme = "ftp".toList then some 21
  else none

/-- Whether a URL of a scheme must have a host. -/
def requiresHost (scheme : List Char) : Bool := (defaultPort? scheme).isSome

/-- The schemes relative to whose URLs others can be given; none at all is one of them. -/
def relativeSchemes : List String :=
  ["", "ftp", "http", "gopher", "nntp", "imap", "wais", "file", "https", "shttp", "mms",
    "prospero", "rtsp", "rtsps", "rtspu", "sftp", "svn", "svn+ssh", "ws", "wss"]

/-- The schemes whose URLs are written with an authority, be it an empty one. -/
def authoritySchemes : List String :=
  relativeSchemes ++ ["telnet", "snews", "rsync", "nfs", "git", "git+ssh"]

/-! ### Reading -/

/-- Whether a character may stand in a scheme. -/
def isSchemeChar (c : Char) : Bool := isAlphanumeric c || ['+', '-', '.'].contains c

/-- A text without leading spaces and controls, and without tabs and line breaks. -/
def stripped (s : List Char) : List Char :=
  (s.dropWhile fun c => c.toNat ≤ 0x20).filter fun c => c ≠ '\t' ∧ c ≠ '\n' ∧ c ≠ '\r'

/-- The scheme of a text in lower case, and what follows its colon. -/
def cutScheme (s : List Char) : List Char × List Char :=
  match cutFirst? ':' s with
  | some (a, b) =>
    if !a.isEmpty && a.all isSchemeChar then (a.map Char.toLower, b) else ([], s)
  | none => ([], s)

/-- Whether a character ends an authority. -/
def endsAuthority (c : Char) : Bool := c == '/' || c == '?' || c == '#'

/-- An authority behind two slashes, and what follows it. -/
def cutAuthority (s : List Char) : List Char × List Char :=
  match s with
  | '/' :: '/' :: r =>
    (r.takeWhile fun c => !endsAuthority c, r.dropWhile fun c => !endsAuthority c)
  | s => ([], s)

/-- The part of a text before a mark and the part behind it, empty if there is no mark. -/
def cutAt (mark : Char) (s : List Char) : List Char × List Char := (cutFirst? mark s).getD (s, [])

/-- Whether a text is an address of a version yet to come: `v`, a version in hexadecimal, a point
and something more. -/
def isFutureAddress (s : List Char) : Bool :=
  match s with
  | 'v' :: r =>
    let version := r.takeWhile fun c => (hexValue? c).isSome
    match r.drop version.length with
    | '.' :: rest => !version.isEmpty && !rest.isEmpty && !rest.contains '\n'
    | _ => false
  | _ => false

/-- Whether a host may stand in brackets: an address of version 6, with a zone or without, or one of
a version yet to come. -/
def isBracketable (host : List Char) : Bool :=
  if host.head? = some 'v' then isFutureAddress host
  else match IpAddress.ofText? (cutAt '%' host).1 with
    | some (.v6 _) => true
    | _ => false

/-- Whether the brackets in an authority are a pair around an address. -/
def bracketsAreSound (s : List Char) : Bool :=
  if s.contains '[' != s.contains ']' then false
  else !s.contains '[' || (Authority.bracketed? s).any isBracketable

/-- The characters beyond ASCII whose compatibility forms hold a delimiter of URLs. -/
def hiddenDelimiters : CharSet := CharSet.ofTable "
2047-2049 2100-2101 2105-2106 2a74 fe13 fe16 fe55-fe56 fe5f fe6b ff03 ff0f ff1a ff1f-ff20"

/-- Whether an authority holds no hidden delimiter. -/
def holdsNoHiddenDelimiter (s : List Char) : Bool := s.all fun c => !hiddenDelimiters.contains c

/-- Signs that stand in no authority of a URL: the backslash, which some readers take for a slash,
and the characters whose compatibility forms hold it, a bracket or a percent sign. -/
def forbiddenSigns : CharSet := CharSet.ofTable "5c fe47-fe48 fe68 fe6a ff05 ff3b-ff3d"

/-- The authority of a URL of a scheme, from the text that stands for it. -/
def readAuthority? (scheme s : List Char) : Option Authority :=
  if s.any forbiddenSigns.contains ∨ !bracketsAreSound s ∨ !holdsNoHiddenDelimiter s then none
  else if s.isEmpty then some .absent
  else do
    let a ← Authority.ofText? s
    if a.host.isEmpty ∧ requiresHost scheme then none
    else
      some
        { user := a.user.map userQuoting.requote
          password := a.password.map userQuoting.requote
          host := ← if a.host.isEmpty then some [] else Host.encode? false a.host
          port := a.port }

/-- Reads a URL. -/
def ofText? (s : List Char) : Option Url := do
  let (scheme, rest) := cutScheme (stripped s)
  let (authority, rest) := cutAuthority rest
  let (rest, fragment) := cutAt '#' rest
  let (path, query) := cutAt '?' rest
  let authority ← readAuthority? scheme authority
  let path := pathQuoting.requote path
  some
    { scheme := scheme
      authority := authority
      path := if authority.isPresent then cleanPath path else path
      query := queryQuoting.requote query
      fragment := fragmentQuoting.requote fragment }

/-! ### Parts -/

/-- The host of a URL as text, without brackets. -/
def host? (u : Url) : Option (List Char) := Host.decode? u.authority.bareHost

/-- The port of a URL: its own or the one that its scheme implies. -/
def port? (u : Url) : Option Nat := u.authority.port <|> defaultPort? u.scheme

/-- Whether a URL names a user. -/
def hasUser (u : Url) : Bool := u.authority.user.any fun user => !user.isEmpty

/-- The path of a URL as text; behind an authority it is never empty. -/
def pathText (u : Url) : List Char :=
  if u.path.isEmpty ∧ u.authority.isPresent then ['/'] else unquote u.path

/-! ### Building -/

/-- Builds a URL of a scheme, a host and a port, with credentials where they are given. The host
must be an address or a name. It and the port are kept as they are given, not as they are read from
the written authority; the two differ only for an address whose zone holds an at sign, a colon or a
closing bracket, which is written all the same. -/
def build? (scheme : List Char) (user password : Option (List Char)) (host : List Char)
    (port : Int) (path query : List Char) : Option Url := do
  let path := pathQuoting.quote path
  let query := queryQuoting.quote query
  if host.isEmpty then
    if port = 0 then some ⟨scheme, .absent, path, query, []⟩ else none
  else
    let host ← Host.encode? true host
    if port < 0 ∨ 65535 < port then none
    else
      let authority : Authority :=
        { user := user.map userQuoting.quote
          password := password.map userQuoting.quote
          host := host
          port := if defaultPort? scheme = some port.toNat then none else some port.toNat }
      some ⟨scheme, authority, cleanPath path, query, []⟩

/-- The URL with another user, if it has an authority. -/
def withUser? (u : Url) (user : List Char) : Option Url :=
  if u.authority.isPresent then
    some { u with authority :=
      { u.authority with
        user := some (userQuoting.quote user)
        host := Authority.written u.authority.bareHost } }
  else none

/-- The URL with another password, if it has an authority. -/
def withPassword? (u : Url) (password : List Char) : Option Url :=
  if u.authority.isPresent then
    some { u with authority :=
      { u.authority with
        password := some (userQuoting.quote password)
        host := Authority.written u.authority.bareHost } }
  else none

/-! ### Writing -/

/-- The authority of a URL as it is written, without a port that the scheme implies. -/
def writtenAuthority (u : Url) : Authority :=
  match u.authority.port with
  | some port =>
    if defaultPort? u.scheme = some port then
      { u.authority with host := Authority.written u.authority.bareHost, port := none }
    else u.authority
  | none => u.authority

/-- The path of a URL as it is written: a slash in front of a query or a fragment. -/
def writtenPath (u : Url) : List Char :=
  if u.path.isEmpty ∧ u.authority.isPresent ∧ !(u.query.isEmpty && u.fragment.isEmpty) then ['/']
  else u.path

/-- A path written without an authority in front, so that nothing in it is taken for one. -/
def barePath (path : List Char) : List Char :=
  if ['/', '/'].isPrefixOf path then '/' :: '/' :: path else path

/-- A path written without a scheme in front, so that nothing in it is taken for one: a colon behind
characters that may stand in a scheme is escaped. -/
def guardedPath (path : List Char) : List Char :=
  match cutFirst? ':' path with
  | some (a, b) =>
    if !a.isEmpty && a.all isSchemeChar then a ++ '%' :: '3' :: 'A' :: b else path
  | none => path

/-- The text of a URL. -/
def text (u : Url) : List Char :=
  let authority := u.writtenAuthority.text
  let path := u.writtenPath
  let front :=
    if !authority.isEmpty ∨ (!u.scheme.isEmpty ∧ authoritySchemes.contains (String.ofList u.scheme)
        ∧ !(['/', '/'].isPrefixOf path)) then
      (if u.scheme.isEmpty then [] else u.scheme ++ [':']) ++ '/' :: '/' :: authority ++
        (if path.isEmpty ∨ path.head? = some '/' then path else '/' :: path)
    else if u.scheme.isEmpty then guardedPath (barePath path)
    else u.scheme ++ ':' :: barePath path
  front ++ (if u.query.isEmpty then [] else '?' :: u.query) ++
    if u.fragment.isEmpty then [] else '#' :: u.fragment

/-- What stands in place of a password where a URL is shown. -/
def placeholder : List Char := "xxxxx".toList

/-- The URL with a placeholder for its password, unless that is empty. -/
def redacted (u : Url) : Url :=
  match u.authority.password with
  | some (_ :: _) => (u.withPassword? placeholder).getD u
  | _ => u

/-- The text of a URL as it may be shown. -/
def shown (u : Url) : String := String.ofList u.redacted.text

/-! ### Relative references -/

/-- The segments of a path up to the last one, with their escapes undone. -/
def parentSegments (path : List Char) : List (List Char) :=
  ((parts '/' path).dropLast).map unquote

/-- A path given relative to another one. -/
def joinPath (base path : List Char) : List Char :=
  cleanPath <|
    if path.head? = some '/' then path
    else if base.isEmpty then '/' :: path
    else if base.getLast? = some '/' then base ++ path
    else ['/'].intercalate (parentSegments base ++ [path])

/-- The URL that a reference leads to from another URL. A reference with another scheme, or with one
that knows no relative references, stands for itself; one with an authority keeps only the
scheme. -/
def join? (base reference : Url) : Option Url :=
  let scheme := if reference.scheme.isEmpty then base.scheme else reference.scheme
  if scheme ≠ base.scheme ∨ !relativeSchemes.contains (String.ofList scheme) then some reference
  else if reference.authority.isPresent then do
    some { reference with scheme := scheme, authority := ← reference.authority.reread? }
  else do
    let authority ← base.authority.reread?
    if reference.path.isEmpty then
      some
        { scheme := scheme
          authority := authority
          path := base.path
          query := if reference.query.isEmpty then base.query else reference.query
          fragment := if reference.fragment.isEmpty then base.fragment else reference.fragment }
    else
      some
        { reference with
          scheme := scheme
          authority := authority
          path := joinPath base.path reference.path }

end Url

end SqlCluster
