import SqlCluster.Directory
import SqlCluster.Wire

/-!
Dispatch: one call to a cluster. The peers are tried one after the other, the leader first, until
one gives a full answer. A peer that cannot be reached or answers otherwise is passed over with a
record of why; one that names another place is followed there, but not for ever.
-/

namespace SqlCluster

/-- Why a peer was passed over: its address, the URL it was last asked at, and the reason. -/
structure PeerFailure where
  peer : String
  url : String
  reason : String
  deriving DecidableEq, Repr

/-- A failure in words. -/
def PeerFailure.text (f : PeerFailure) : String := f.url ++ " failed: " ++ f.reason

/-- What ends a call before every peer was tried: a URL that cannot be made, or an abort. -/
inductive Interruption where
  | unusableUrl
  | aborted (cause : Abort)
  deriving DecidableEq, Repr

/-- A cause in words, where it has some. -/
def Interruption.message? : Interruption → Option String
  | aborted (.system message) => some message
  | aborted .cancelled | unusableUrl => none

/-- Why a call got no answer: every peer failed, or it was interrupted. -/
inductive DispatchError where
  | exhausted (failures : List PeerFailure)
  | interrupted (cause : Interruption)
  deriving DecidableEq, Repr

namespace PeerFailure

/-- The failures of a call from a place on in words, one a line. -/
def lines : (place : Nat) → List PeerFailure → List String
  | _, [] => []
  | place, f :: fs =>
    ("   peer #" ++ place.repr ++ " (" ++ f.peer ++ "): " ++ f.text) :: lines (place + 1) fs

/-- The failures of a call in words. -/
def summary (failures : List PeerFailure) : String :=
  String.intercalate "\n" <|
    "tried all peers unsuccessfully. here are the results:" :: lines 0 failures

end PeerFailure

/-- What is asked of a cluster, under which configuration. -/
structure Call where
  config : Config
  op : Operation
  body : Option String := none
  queue : Bool := false

/-- What came of asking one peer. -/
inductive Attempt where
  | answered (body : List UInt8)
  | failed (cause : PeerFailure)
  | interrupted (cause : Interruption)

namespace Call

/-- The most redirects that are followed from one peer. -/
def redirectLimit : Nat := 10

/-- The place that a reply names to go on at, if the call goes on there. -/
def redirection? (call : Call) (status : Int) (location : Option String) : Option String :=
  if status = 301 ∧ call.op.followsRedirects then location.filter (· ≠ "") else none

/-- What comes of an answer that names no place to go on at. -/
def conclude (peer : Peer) (url : Url) (status : Int) (body : List UInt8) (w : Wire) :
    Attempt × Wire :=
  if status = 200 then (.answered body, w.note .answered)
  else
    (.failed ⟨peer.text, url.shown, "got status " ++ status.repr⟩,
      w.note (.refused url.shown status))

/-- Asks the peer at a place of the directory, at a URL, and follows so many redirects. -/
def ask (call : Call) (place : Nat) (peer : Peer) : (redirects : Nat) → Url → Wire → Attempt × Wire
  | redirects, url, w =>
    match (w.note (.trying place peer.text)).exchange (.of call.op call.body url) with
    | (none, w) => (.interrupted .unusableUrl, w)
    | (some (.aborted cause), w) => (.interrupted (.aborted cause), w)
    | (some (.lost loss text), w) =>
      (.failed ⟨peer.text, url.shown, loss.reason text⟩,
        w.note (.lost url.shown (loss.reason text)))
    | (some (.answer status location body), w) =>
      match call.redirection? status location with
      | none => conclude peer url status body w
      | some location =>
        match redirects with
        | 0 => (.failed ⟨peer.text, url.shown, "too many redirects"⟩, w)
        | redirects + 1 =>
          match call.config.redirectUrl? url location with
          | none => (.interrupted .unusableUrl, w)
          | some target =>
            ask call place peer redirects target (w.note (.redirected url.shown target.shown))

/-- Tries peers from a place on, with the failures so far. -/
def walk (call : Call) : (place : Nat) → List Peer → List PeerFailure → Wire →
    Except DispatchError (List UInt8) × Wire
  | _, [], failures, w => (.error (.exhausted failures), w)
  | place, p :: ps, failures, w =>
    match call.config.requestUrl? call.op p call.queue with
    | none => (.error (.interrupted .unusableUrl), w)
    | some url =>
      match call.ask place p redirectLimit url (w.note (.assembled call.op url.shown)) with
      | (.answered body, w) => (.ok body, w)
      | (.failed cause, w) => walk call (place + 1) ps (failures ++ [cause]) w
      | (.interrupted cause, w) => (.error (.interrupted cause), w)

/-- Makes a call to the peers of a directory, and gives the body of the first full answer. -/
def dispatch (call : Call) (d : Directory) (w : Wire) :
    Except DispatchError (List UInt8) × Wire :=
  walk call 0 d.peers [] (w.note (.dispatching call.op d.peers.length))

end Call

end SqlCluster
