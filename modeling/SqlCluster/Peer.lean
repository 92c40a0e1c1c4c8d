import SqlCluster.Url
import SqlCluster.Text.Quoted

/-!
Peers: the nodes of a cluster by host and port. An address is a host with a port behind its last
colon, which may be missing, or a URL.
-/

namespace SqlCluster

/-- A node by its host and the text of its port. -/
structure Peer where
  host : String
  port : String
  deriving DecidableEq, Repr

/-- Why an address names no peer: it has no host, its port is no number from 1 to 65535, its port
is made of digits that denote no number, or it is a URL that cannot be read. -/
inductive AddressError where
  | noHost (address : String)
  | invalidPort (address : String)
  | unreadablePort
  | invalidUrl
  deriving DecidableEq, Repr

/-- A cause in words, where it has some. -/
def AddressError.message? : AddressError → Option String
  | noHost address => some ("no host in address " ++ Text.quoted address)
  | invalidPort address => some ("invalid port in address " ++ Text.quoted address)
  | unreadablePort | invalidUrl => none

namespace Peer

/-- The port of an address that names none. -/
def defaultPort : String := "4001"

/-- A peer as `host:port`. -/
def text (p : Peer) : String := p.host ++ ":" ++ p.port

/-- Whether an address is a URL. -/
def isUrl : List Char → Bool
  | [] => false
  | c :: s => [':', '/', '/'].isPrefixOf (c :: s) || isUrl s

/-- The peer that a URL names. -/
def ofUrl (address : List Char) : Except AddressError Peer :=
  match Url.ofText? address with
  | none => .error .invalidUrl
  | some u => match u.host? with
    | none => .error .invalidUrl
    | some [] => .error (.noHost (String.ofList address))
    | some host => .ok
      { host := String.ofList host
        port := match u.port? with
          | none | some 0 => defaultPort
          | some port => port.repr }

/-- Whether a character is a square bracket. -/
def isBracket (c : Char) : Bool := c == '[' || c == ']'

/-- The peer that a host and a port name, by an address that holds nothing else. -/
def ofHostPort (address : List Char) : Except AddressError Peer :=
  let (host, port) := (Text.cutLast? ':' address).getD (address, [])
  let host := Text.trim isBracket host
  if host.isEmpty then .error (.noHost (String.ofList address))
  else if port.isEmpty then .ok ⟨String.ofList host, defaultPort⟩
  else if !port.all Text.isDigitLike then .error (.invalidPort (String.ofList address))
  else match Numeral.readInt? port with
    | none => .error .unreadablePort
    | some n =>
      if 0 < n ∧ n < 65536 then .ok ⟨String.ofList host, String.ofList port⟩
      else .error (.invalidPort (String.ofList address))

/-- The peer that an address names; blanks around it do not count. -/
def ofAddress (address : String) : Except AddressError Peer :=
  let address := Text.trim Text.isBlank address.toList
  if isUrl address then ofUrl address else ofHostPort address

end Peer

end SqlCluster
