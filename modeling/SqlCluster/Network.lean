import SqlCluster.Dict
import SqlCluster.Request

/-!
Networks: which reply each node has for a request. At every address and path a node has a sequence
of replies, of which the last one stays. Nothing listens at other addresses, and other paths are
not found.
-/

namespace SqlCluster

/-- How an exchange with a node can be lost. -/
inductive Loss where
  | client
  | connection
  | disconnected
  | payload
  | serverTimeout
  | timeout
  deriving DecidableEq, Repr

/-- What ends a call from outside: the system refuses it, or it is cancelled. -/
inductive Abort where
  | system (message : String)
  | cancelled
  deriving DecidableEq, Repr

/-- What comes of a request: an answer, a loss, perhaps with a text that tells of it, or the end of
the call. -/
inductive Reply where
  | answer (status : Int) (location : Option String) (body : List UInt8)
  | lost (loss : Loss) (text : Option String)
  | aborted (cause : Abort)
  deriving DecidableEq, Repr

namespace Loss

/-- The name of a loss. -/
def name : Loss → String
  | client => "ClientError"
  | connection => "ClientConnectionError"
  | disconnected => "ServerDisconnectedError"
  | payload => "ClientPayloadError"
  | serverTimeout => "ServerTimeoutError"
  | timeout => "TimeoutError"

/-- What is said of a loss: the text that tells of it, or its name if there is no such text. -/
def reason (loss : Loss) (text : Option String) : String :=
  match text with
  | some text => if text = "" then loss.name else text
  | none => if loss = .disconnected then "Server disconnected" else loss.name

end Loss

/-- The replies by address and path. -/
abbrev Network := Dict (Dict (List Reply))

namespace Network

/-- The reply where nothing listens. -/
def refused : Reply := .lost .connection (some "connection refused")

/-- The reply where nothing is found. -/
def notFound : Reply := .answer 404 none []

/-- The address of the host and the port of a URL. -/
def address (host : List Char) (port : Option Nat) : String :=
  match port with
  | some port => String.ofList host ++ ":" ++ port.repr
  | none => String.ofList host

/-- The next reply at an address and path, and the network after it. -/
def reply (n : Network) (address path : String) : Reply × Network :=
  match Dict.get? n address with
  | none => (refused, n)
  | some paths => match Dict.get? paths path with
    | none | some [] => (notFound, n)
    | some [r] => (r, n)
    | some (r :: rs) => (r, Dict.put n address (Dict.put paths path rs))

end Network

end SqlCluster
