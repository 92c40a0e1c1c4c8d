import SqlCluster.Discovery
import SqlCluster.Outcome.Response
import SqlCluster.Statement

/-!
Clients: what keeps a configuration, the directory of the cluster and a session to it. A client is
connected while a session is open. Closing it is final: afterwards it only tells what it holds.
-/

namespace SqlCluster

/-- Settings of a caller that stand above those of the connection URL. -/
structure Options where
  level : Option Value := none
  timeout : Option Amount := none
  disableDiscovery : Option Bool := none
  transactions : Option Bool := none
  maxConnections : Option Amount := none

/-- A session: how many connections it may hold and how long an exchange may take. -/
structure Session where
  limit : Amount
  timeout : Amount
  closed : Bool
  deriving DecidableEq

/-- A client. The sessions are all those that it ever opened, and `current` is the place of the one
that it uses. -/
structure Client where
  config : Config
  cluster : Directory
  closed : Bool
  sessions : List Session
  current : Option Nat

/-- What a client is asked to do. -/
inductive Step where
  | connect
  | close
  | enter
  | exit
  | leader
  | peers
  | cluster
  | config
  | getLevel
  | setLevel (v : Value)
  | setTransactions (on : Bool)
  | batch (op : Operation) (statements : Value) (raiseErrors : Bool)
  | single (op : Operation) (statement : Value)
  | queue (statements : Value)

/-- What a client answers. -/
inductive Answer where
  | done
  | entered
  | text (s : String)
  | texts (ss : List String)
  | directory (d : Directory)
  | config (c : Config)
  | outcomes (os : List Outcome)
  | number (n : Int)

/-- Why a client refuses or fails at what it is asked to do. -/
inductive ClientError where
  | closed
  | notConnected
  | config (cause : ConfigError)
  | encode (cause : EncodeError)
  | dispatch (cause : DispatchError)
  | discovery (cause : DiscoveryError)
  | response (cause : Response.Error)
  | statements (cause : StatementErrors)

/-- A cause in words, where it has some. -/
def ClientError.message? : ClientError → Option String
  | closed => some "rqlite: connection is closed"
  | notConnected => some "Client not connected. Call connect() first."
  | config cause => cause.message?
  | encode cause => some cause.message
  | dispatch (.exhausted failures) => some (PeerFailure.summary failures)
  | dispatch (.interrupted cause) | discovery (.interrupted cause) => cause.message?
  | discovery (.topology cause) => some cause.message
  | response cause => some cause.message
  | statements cause => some cause.text

namespace Config

/-- Sets what a caller gives. -/
def override (c : Config) (o : Options) : Except ConfigError Config := do
  let c ← match o.level with
    | some v => c.setLevel v
    | none => .ok c
  return { c with
    timeout := o.timeout.getD c.timeout
    disableDiscovery := o.disableDiscovery.getD c.disableDiscovery
    transactions := o.transactions.getD c.transactions
    maxConnections := o.maxConnections.getD c.maxConnections }

/-- The directory that holds the node of the connection URL. -/
def seed (c : Config) : Directory := .seed ⟨c.host, c.port⟩

end Config

namespace Client

/-- A client of a configuration, not connected yet. -/
def ofConfig (c : Config) : Client := ⟨c, c.seed, false, [], none⟩

/-- The note that tells of a new client. -/
def birth (c : Client) : Note :=
  .created c.config.host c.config.port c.config.level.name !c.config.disableDiscovery

/-- Sets a client up on a network. -/
def create (url : String) (o : Options) (n : Network) : Except ConfigError (Client × Wire) := do
  let c := ofConfig (← (← Config.ofUrl url).override o)
  return (c, (Wire.ofNetwork n).note c.birth)

/-- Whether a client is connected. -/
def isConnected (c : Client) : Bool := c.current.isSome

/-- Refuses what a closed client is asked to do. -/
def checkOpen (c : Client) : Except ClientError Unit :=
  if c.closed then .error .closed else .ok ()

/-- Refuses what only a connected client can do. -/
def checkConnected (c : Client) : Except ClientError Unit :=
  if c.closed then .error .closed else if c.isConnected then .ok () else .error .notConnected

/-! ### Sessions -/

/-- Opens a session. -/
def openSession (c : Client) : Client :=
  { c with
    sessions := c.sessions ++ [⟨c.config.maxConnections, c.config.timeout, false⟩]
    current := some c.sessions.length }

/-- Closes the session in use, if there is one. -/
def closeSession (c : Client) : Client :=
  match c.current with
  | some k =>
    { c with sessions := c.sessions.modify k ({ · with closed := true }), current := none }
  | none => c

/-! ### Cluster -/

/-- Replaces the directory by what the cluster tells now. -/
def refresh (c : Client) (w : Wire) : Except ClientError Client × Wire :=
  match Discovery.discover c.config c.cluster w with
  | (.error cause, w) => (.error (.discovery cause), w)
  | (.ok found, w) =>
    (.ok { c with cluster := found },
      w.note (.clusterIs found.leaderText (found.followers.map Peer.text)))

/-- Opens a session and discovers the cluster, unless the client is connected already. If the
cluster cannot be discovered the session is closed again. -/
def connect (c : Client) (w : Wire) : Except ClientError Unit × Client × Wire :=
  match c.checkOpen with
  | .error cause => (.error cause, c, w)
  | .ok () =>
    if c.isConnected then (.ok (), c, w)
    else if c.config.disableDiscovery then (.ok (), c.openSession, w.note .discoveryOff)
    else match c.openSession.refresh w with
      | (.ok c, w) => (.ok (), c, w)
      | (.error cause, w) => (.error cause, c.openSession.closeSession, w)

/-- Closes a client for good. -/
def close (c : Client) (w : Wire) : Client × Wire :=
  ({ c.closeSession with closed := true }, w.note .closing)

/-- What a connected client tells of the directory, after it has asked the cluster again unless
that is disabled. -/
def tell (c : Client) (w : Wire) (answer : Directory → Answer) :
    Except ClientError Answer × Client × Wire :=
  match c.checkConnected with
  | .error cause => (.error cause, c, w)
  | .ok () =>
    if c.config.disableDiscovery then (.ok (answer c.cluster), c, w)
    else match c.refresh w with
      | (.ok c, w) => (.ok (answer c.cluster), c, w)
      | (.error cause, w) => (.error cause, c, w)

/-! ### Statements -/

/-- The statements that a value holds, and the body that they are sent in. -/
def encode (op : Operation) (statements : Value) :
    Except EncodeError (List Statement × List Char) := do
  let batch ← Statement.listOf statements
  return (batch, ← Statement.encodeBatch op batch)

/-- Sends statements, and gives their number and the body of the answer. -/
def submit (c : Client) (op : Operation) (statements : Value) (queue : Bool) (w : Wire) :
    Except ClientError (Nat × List UInt8) × Wire :=
  match c.checkConnected with
  | .error cause => (.error cause, w)
  | .ok () => match encode op statements with
    | .error cause => (.error (.encode cause), w)
    | .ok (batch, body) =>
      let call : Call := ⟨c.config, op, some (String.ofList body), queue⟩
      match call.dispatch c.cluster (w.note (.submitting op batch.length)) with
      | (.error cause, w) => (.error (.dispatch cause), w)
      | (.ok response, w) => (.ok (batch.length, response), w)

/-- Runs statements, and gives the outcome of each. Where it is asked to, it gives the failures
instead if there are any. -/
def run (c : Client) (op : Operation) (statements : Value) (raiseErrors : Bool) (w : Wire) :
    Except ClientError (List Outcome) × Wire :=
  match c.submit op statements false w with
  | (.error cause, w) => (.error cause, w)
  | (.ok (count, response), w) =>
    match Response.decode response op (some count) with
    | .error cause => (.error (.response cause), w)
    | .ok outcomes =>
      let w := w.note (.decoded outcomes.length)
      if raiseErrors then
        match Outcome.raiseErrors outcomes with
        | .ok outcomes => (.ok outcomes, w)
        | .error cause => (.error (.statements cause), w)
      else (.ok outcomes, w)

/-- Has statements written later, and gives the number under which they are queued. -/
def enqueue (c : Client) (statements : Value) (w : Wire) : Except ClientError Int × Wire :=
  match c.submit .write statements true w with
  | (.error cause, w) => (.error cause, w)
  | (.ok (_, response), w) =>
    match Response.sequenceNumber response with
    | .ok n => (.ok n, w)
    | .error cause => (.error (.response cause), w)

/-! ### Steps -/

/-- Sets the level, if the client is open. -/
def setLevel (c : Client) (v : Value) : Except ClientError Client :=
  match c.checkOpen with
  | .error cause => .error cause
  | .ok () => match c.config.setLevel v with
    | .ok config => .ok { c with config := config }
    | .error cause => .error (.config cause)

/-- Does what it is asked to do. -/
def step (c : Client) (w : Wire) : Step → Except ClientError Answer × Client × Wire
  | .connect => match c.connect w with
    | (.ok (), c, w) => (.ok .done, c, w)
    | (.error cause, c, w) => (.error cause, c, w)
  | .enter => match c.connect w with
    | (.ok (), c, w) => (.ok .entered, c, w)
    | (.error cause, c, w) => (.error cause, c, w)
  | .close | .exit => (.ok .done, c.close w)
  | .leader => c.tell w fun d => .text d.leaderText
  | .peers => c.tell w fun d => .texts (d.peers.map Peer.text)
  | .cluster => (.ok (.directory c.cluster), c, w)
  | .config => (.ok (.config c.config), c, w)
  | .getLevel => (c.checkOpen.map fun () => .text c.config.level.name, c, w)
  | .setLevel v => match c.setLevel v with
    | .ok c => (.ok .done, c, w)
    | .error cause => (.error cause, c, w)
  | .setTransactions on => match c.checkOpen with
    | .ok () => (.ok .done, { c with config := { c.config with transactions := on } }, w)
    | .error cause => (.error cause, c, w)
  | .batch op statements raiseErrors =>
    let (result, w) := c.run op statements raiseErrors w
    (result.map .outcomes, c, w)
  | .single op statement =>
    let (result, w) := c.run op (.list [statement]) true w
    (result.map .outcomes, c, w)
  | .queue statements =>
    let (result, w) := c.enqueue statements w
    (result.map .number, c, w)

/-- What a step came to: the answer, whether the client was closed after it, and the requests that
it sent. -/
structure Report where
  result : Except ClientError Answer
  closed : Bool
  sent : List Request

/-- Does what it is asked to do, and reports. -/
def perform (c : Client) (w : Wire) (s : Step) : Report × Client × Wire :=
  let (result, c', w') := c.step w s
  (⟨result, c'.closed, w'.sent.drop w.sent.length⟩, c', w')

/-- Does what it is asked to do, one step after the other. -/
def performAll (c : Client) (w : Wire) : List Step → List Report × Client × Wire
  | [] => ([], c, w)
  | s :: ss =>
    let (report, c, w) := c.perform w s
    let (reports, c, w) := performAll c w ss
    (report :: reports, c, w)

end Client

end SqlCluster
