import SqlCluster.Config.Location
import SqlCluster.Level
import SqlCluster.Peer

/-!
Configurations: what a client is set up with. Most of it stands in a connection URL,
`http[s]://[user:password@]host[:port][/path][?parameters]`, whose parameters set the level, the
timeout and whether the cluster is discovered, the last of each winning.
-/

namespace SqlCluster

/-- A number that a caller sets. -/
inductive Amount where
  | whole (n : Int)
  | real (x : Double)
  deriving DecidableEq

/-- What a client is set up with. -/
structure Config where
  url : String := "http://"
  scheme : String := "http"
  host : String := "localhost"
  port : String := Peer.defaultPort
  username : Option String := none
  password : Option String := none
  level : Level := .weak
  timeout : Amount := .real (Double.ofRatio false 10 1)
  disableDiscovery : Bool := false
  transactions : Bool := true
  maxConnections : Amount := .whole 10

/-- Why a connection URL or an option cannot be used. -/
inductive ConfigError where
  | tooShort
  | wrongStart
  | invalidUrl (cause : LocationError)
  | unsupportedScheme (scheme : String)
  | level (cause : LevelError)
  | invalidTimeout (value : String)
  | invalidDiscovery (value : String)
  | unknownParameter (name value : String)

/-- A cause in words, where it has some. -/
def ConfigError.message? : ConfigError → Option String
  | tooShort => some "url specified is impossibly short"
  | wrongStart => some "url does not start with 'http'"
  | invalidUrl cause => some ("invalid url: " ++ cause.message)
  | unsupportedScheme scheme => some ("unsupported scheme: " ++ scheme)
  | level cause => cause.message?
  | invalidTimeout value => some ("invalid timeout: " ++ value)
  | invalidDiscovery value => some ("invalid disableClusterDiscovery value: " ++ value)
  | unknownParameter name value =>
    some ("don't know what to do with this query: " ++ name ++ "=" ++ value)

namespace Config

/-- Sets the level to the one that a value names. -/
def setLevel (c : Config) (v : Value) : Except ConfigError Config :=
  match Level.ofValue v with
  | .ok l => .ok { c with level := l }
  | .error cause => .error (.level cause)

/-- Sets the timeout to a number of seconds that is not zero and not below. -/
def setTimeout (c : Config) (value : List Char) : Except ConfigError Config :=
  match Numeral.readDouble? value with
  | some x =>
    if x.isNonpositive then .error (.invalidTimeout (String.ofList value))
    else .ok { c with timeout := .real x }
  | none => .error (.invalidTimeout (String.ofList value))

/-- The truth value of a word, in whatever case its letters are. -/
def flag? (s : List Char) : Option Bool :=
  let word := String.ofList (Text.lower s)
  if ["1", "t", "true", "yes"].contains word then some true
  else if ["0", "f", "false", "no"].contains word then some false
  else none

/-- Sets what a parameter of a connection URL stands for. -/
def setParameter (c : Config) (name value : List Char) : Except ConfigError Config :=
  if name = "level".toList then c.setLevel (.text (String.ofList value))
  else if name = "timeout".toList then c.setTimeout value
  else if name = "disableClusterDiscovery".toList then
    match flag? value with
    | some b => .ok { c with disableDiscovery := b }
    | none => .error (.invalidDiscovery (String.ofList value))
  else .error (.unknownParameter (String.ofList name) (String.ofList value))

/-- Sets what the parameters of a connection URL stand for, one after the other. -/
def setParameters : Config → List (List Char × List Char) → Except ConfigError Config
  | c, [] => .ok c
  | c, (name, value) :: ps => do setParameters (← c.setParameter name value) ps

/-- A text, or nothing if it is empty. -/
def nonempty? (s : List Char) : Option String := if s.isEmpty then none else some (String.ofList s)

/-- The configuration of a location, before its parameters are looked at. -/
def ofLocation (url : String) (l : Location) : Config :=
  { url := url
    scheme := String.ofList l.scheme
    host := (nonempty? l.host).getD "localhost"
    port := if l.port = 0 then Peer.defaultPort else l.port.repr
    username := nonempty? l.user
    password := nonempty? l.password }

/-- The configuration of a connection URL. -/
def ofUrl (url : String) : Except ConfigError Config :=
  if url.length < 7 then .error .tooShort
  else if !"http".toList.isPrefixOf url.toList then .error .wrongStart
  else match Location.ofText url.toList with
    | .error cause => .error (.invalidUrl cause)
    | .ok l =>
      if l.scheme = "http".toList ∨ l.scheme = "https".toList then
        (ofLocation url l).setParameters l.parameters
      else .error (.unsupportedScheme (String.ofList l.scheme))

end Config

end SqlCluster
