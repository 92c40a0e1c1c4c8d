import SqlCluster.Config
import SqlCluster.Operation

/-!
Requests: what is sent to a node, and where it is sent to. Statements are posted, and their URL
tells how they are to be run; questions about the cluster are plain reads. A node may answer a post
with another place to send it to, which is then read relative to the place it came from.
-/

namespace SqlCluster

/-- What is sent to a node. -/
inductive Request where
  | read (url : Url)
  | post (url : Url) (body : Option String)
  deriving DecidableEq

namespace Request

/-- The request of an operation at a URL; only statements have a body. -/
def of (op : Operation) (body : Option String) (url : Url) : Request :=
  if op.takesStatements then post url body else read url

/-- Where a request is sent to. -/
def url : Request → Url
  | read url | post url _ => url

@[simp] theorem url_of (op : Operation) (body : Option String) (u : Url) :
    (of op body u).url = u := by
  cases op <;> rfl

/-- What a request carries. -/
def body : Request → Option String
  | read _ => none
  | post _ body => body

/-- The method of a request. -/
def method : Request → String
  | read _ => "GET"
  | post .. => "POST"

/-- The header of a request that tells of JSON: what is wanted, or what is sent. -/
def header : Request → String × String
  | read _ => ("Accept", "application/json")
  | post .. => ("Content-Type", "application/json")

/-- Whether redirects of a request are left to the transport. -/
def followsRedirects : Request → Bool
  | read _ => true
  | post .. => false

end Request

namespace Config

/-- The query that tells how statements are to be run. -/
def queryText (c : Config) (queue : Bool) : String :=
  String.intercalate "&" <|
    ["timings", "level=" ++ c.level.name] ++ (if c.transactions then ["transaction"] else []) ++
      if queue then ["queue"] else []

/-- A text that is there and not empty. -/
def given? (s : Option String) : Option (List Char) :=
  match s with
  | some s => if s = "" then none else some s.toList
  | none => none

theorem given?_ne (s : Option String) : given? s ≠ some [] := by
  cases s with
  | none => simp [given?]
  | some s =>
    rw [given?]
    split
    · simp
    next hempty => simpa using hempty

/-- The URL of an operation at a peer, if the peer has a host and a port that URLs can hold. -/
def requestUrl? (c : Config) (op : Operation) (p : Peer) (queue : Bool) : Option Url := do
  let port ← Numeral.readInt? p.port.toList
  Url.build? c.scheme.toList (given? c.username) (given? c.password) p.host.toList port
    op.path.toList (if op.takesStatements then (c.queryText queue).toList else [])

/-- The URL with the credentials of a configuration. -/
def withCredentials? (c : Config) (u : Url) : Option Url :=
  match given? c.username with
  | none => some u
  | some user =>
    match given? c.password with
    | none => u.withUser? user
    | some password => do (← u.withUser? user).withPassword? password

/-- The URL that a redirect leads to from another URL. It gets the credentials of the configuration
unless it names a user. -/
def redirectUrl? (c : Config) (current : Url) (location : String) : Option Url := do
  let target ← current.join? (← Url.ofText? location.toList)
  if target.hasUser then some target else c.withCredentials? target

end Config

end SqlCluster
