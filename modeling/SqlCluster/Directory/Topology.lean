import SqlCluster.Directory
import SqlCluster.Json.Reader

/-!
Topology documents: what nodes tell of their cluster. A status document names the leader by the
identifier under which its metadata lists the nodes; a node document flags it, and leaves out no
node but marks those that cannot be reached. Entries of another shape and nodes without a usable
address do not count, and without a usable leader there is no directory.
-/

namespace SqlCluster.Topology

/-- The peer at an address, if the address is a text that names one. -/
def peer? : Value → Option Peer
  | .text address => if address = "" then none else (Peer.ofAddress address).toOption
  | _ => none

/-- The entries of a dictionary. -/
def entries? : Value → Option (Dict Value)
  | .dict entries => some entries
  | _ => none

/-- The identifier of the leader in the store of a status document. -/
def leaderId? (store : Value) : Option String :=
  let v := match store.field "leader" with
    | .dict info =>
      let id := (Value.dict info).field "node_id"
      if id.isTruthy then id else (Value.dict info).field "addr"
    | v => v
  match v with
  | .text id => if id = "" then none else some id
  | _ => none

/-- The nodes with a usable address among the metadata of a status document. -/
def listed (metadata : Dict Value) : List (String × Peer) :=
  metadata.filterMap fun (id, node) => do
    let node ← entries? node
    let p ← peer? ((Value.dict node).field "api_addr")
    some (id, p)

/-- The directory of nodes by their identifiers, with the one of a given identifier in the lead. -/
def ledBy? (id : String) (nodes : List (String × Peer)) : Option Directory := do
  let (_, leader) ← nodes.reverse.find? fun (i, _) => i = id
  some ⟨some leader, (nodes.filter fun (i, _) => i ≠ id).map Prod.snd⟩

/-- The directory that a status document tells of. -/
def ofStatus? (document : Value) : Option Directory := do
  let store ← entries? (← document.field? "store")
  let id ← leaderId? (.dict store)
  let metadata ← entries? ((Value.dict store).field "metadata")
  ledBy? id (listed metadata)

/-- The nodes of a node document: the items of a list, those of the list under `nodes`, or the
values of a dictionary. -/
def nodes : Value → List Value
  | .list items => items
  | .dict entries =>
    match (Value.dict entries).field "nodes" with
    | .list items => items
    | _ => entries.map Prod.snd
  | _ => []

/-- Whether a field of a node is a given truth value. -/
def isFlag (b : Bool) (field : String) (node : Value) : Bool :=
  match node.field field with
  | .bool c => c == b
  | _ => false

/-- The peer of a node that can be used, and whether it claims to lead. -/
def usable? (node : Value) : Option (Bool × Peer) := do
  let _ ← entries? node
  if isFlag false "reachable" node then none
  else
    let p ← peer? (node.field "api_addr")
    some (isFlag true "leader" node, p)

/-- The directory of nodes of which the first that claims to lead does so. -/
def ledByFirst? (nodes : List (Bool × Peer)) : Option Directory :=
  let before := nodes.takeWhile fun (leads, _) => !leads
  match nodes.dropWhile fun (leads, _) => !leads with
  | (_, leader) :: behind => some ⟨some leader, (before ++ behind).map Prod.snd⟩
  | [] => none

/-- The directory that a node document tells of. -/
def ofNodes? (document : Value) : Option Directory :=
  ledByFirst? ((nodes document).filterMap usable?)

/-- The document in a body, null if the body is none. -/
def document (body : List UInt8) : Value := (Json.read body).toOption.getD .null

end SqlCluster.Topology
