/-!
Operations: the calls that a node answers. Statements are sent to three of them, and two only ask
about the cluster.
-/

namespace SqlCluster

/-- A call to a node. -/
inductive Operation where
  | query
  | write
  | request
  | status
  | nodes
  deriving DecidableEq, Repr

namespace Operation

/-- The name of an operation. -/
def name : Operation → String
  | query => "query"
  | write => "write"
  | request => "request"
  | status => "status"
  | nodes => "nodes"

/-- The path at which a node answers an operation. -/
def path : Operation → String
  | query => "/db/query"
  | write => "/db/execute"
  | request => "/db/request"
  | status => "/status"
  | nodes => "/nodes"

/-- Whether an operation takes statements. -/
def takesStatements : Operation → Bool
  | query | write | request => true
  | status | nodes => false

/-- Whether a node may send an operation on to another one. -/
def followsRedirects : Operation → Bool
  | write | request => true
  | query | status | nodes => false

end Operation

end SqlCluster
