import SqlCluster.Operation

/-!
Notes: what a client writes down of its work. Every note carries the name of the client, and losses
are warnings.
-/

namespace SqlCluster

/-- What is noted. Addresses are given as texts, URLs as they may be shown. -/
inductive Note where
  | created (host port level : String) (discovers : Bool)
  | discoveryOff
  | closing
  | clusterIs (leader : String) (followers : List String)
  | submitting (op : Operation) (statements : Nat)
  | decoded (outcomes : Nat)
  | dispatching (op : Operation) (peers : Nat)
  | assembled (op : Operation) (url : String)
  | trying (place : Nat) (peer : String)
  | lost (url reason : String)
  | redirected (source target : String)
  | answered
  | refused (url : String) (status : Int)
  | statusFailed (cause : String)
  | statusLeader (leader : String)
  | statusUnusable
  | nodesLeader (leader : String)
  | follower (place : Nat) (peer : String)
  deriving DecidableEq, Repr

namespace Note

/-- Whether a note is a warning. -/
def isWarning : Note → Bool
  | lost .. | refused .. => true
  | _ => false

/-- A note in words. -/
def text : Note → String
  | created host port level discovers =>
    "client created for " ++ host ++ ":" ++ port ++ " (level=" ++ level ++ ", discovery=" ++
      (if discovers then "on" else "off") ++ ")"
  | discoveryOff => "cluster discovery disabled"
  | closing => "closing connection"
  | clusterIs leader followers =>
    "cluster is leader " ++ leader ++ ", peers " ++
      if followers.isEmpty then "none" else String.intercalate ", " followers
  | submitting op statements => op.name ++ " for " ++ statements.repr ++ " statements"
  | decoded outcomes => "finished parsing, " ++ outcomes.repr ++ " results"
  | dispatching op peers =>
    "dispatching " ++ op.name ++ " across " ++ peers.repr ++ " peer(s)"
  | assembled op url => "assembled URL for " ++ op.name ++ ": " ++ url
  | trying place peer => "trying peer #" ++ place.repr ++ " at " ++ peer
  | lost url reason => url ++ " failed due to " ++ reason
  | redirected source target => source ++ " redirected me to " ++ target
  | answered => "api call OK"
  | refused url status => url ++ " failed, got status " ++ status.repr
  | statusFailed cause => "status call failed, trying nodes: " ++ cause
  | statusLeader leader => "leader determined from status metadata: " ++ leader
  | statusUnusable => "status has no usable metadata, trying nodes"
  | nodesLeader leader => "leader determined from nodes: " ++ leader
  | follower place peer => "follower #" ++ place.repr ++ ": " ++ peer

/-- A note of a client as a line. -/
def line (client : String) (n : Note) : String :=
  (if n.isWarning then "WARNING " else "DEBUG ") ++ client ++ ": " ++ n.text

end Note

end SqlCluster
