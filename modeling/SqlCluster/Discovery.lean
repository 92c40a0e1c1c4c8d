import SqlCluster.Directory.Topology
import SqlCluster.Dispatch

/-!
Discovery: asking a cluster for its nodes. The status document is asked for first; if no peer gives
one or it does not tell the leader, the node document is.
-/

namespace SqlCluster

/-- Why discovery found no leader: no peer gave a node document, or it does not tell the leader. -/
inductive TopologyError where
  | unreachable (failures : List PeerFailure)
  | noLeader
  deriving DecidableEq, Repr

/-- A cause in words. -/
def TopologyError.message : TopologyError → String
  | unreachable failures =>
    "could not determine leader from nodes call: " ++ PeerFailure.summary failures
  | noLeader => "could not determine leader from status or nodes"

/-- Why discovery failed: it found no leader, or it was interrupted. -/
inductive DiscoveryError where
  | topology (cause : TopologyError)
  | interrupted (cause : Interruption)
  deriving DecidableEq, Repr

namespace Directory

/-- The address of the leader of a directory. -/
def leaderText (d : Directory) : String := (d.leader.map Peer.text).getD "None"

end Directory

namespace Discovery

/-- Takes notes of the followers that a node document tells of. -/
def noteFollowers : (place : Nat) → List Peer → Wire → Wire
  | _, [], w => w
  | place, p :: ps, w => noteFollowers (place + 1) ps (w.note (.follower place p.text))

/-- Asks for the node document. -/
def askNodes (config : Config) (d : Directory) (w : Wire) :
    Except DiscoveryError Directory × Wire :=
  match ({ config := config, op := .nodes } : Call).dispatch d w with
  | (.error (.exhausted failures), w) => (.error (.topology (.unreachable failures)), w)
  | (.error (.interrupted cause), w) => (.error (.interrupted cause), w)
  | (.ok body, w) =>
    match Topology.ofNodes? (Topology.document body) with
    | none => (.error (.topology .noLeader), w)
    | some found =>
      (.ok found, noteFollowers 0 found.followers (w.note (.nodesLeader found.leaderText)))

/-- Asks the peers of a directory for the nodes of their cluster. -/
def discover (config : Config) (d : Directory) (w : Wire) :
    Except DiscoveryError Directory × Wire :=
  match ({ config := config, op := .status } : Call).dispatch d w with
  | (.error (.exhausted failures), w) =>
    askNodes config d (w.note (.statusFailed (PeerFailure.summary failures)))
  | (.error (.interrupted cause), w) => (.error (.interrupted cause), w)
  | (.ok body, w) =>
    match Topology.ofStatus? (Topology.document body) with
    | some found => (.ok found, w.note (.statusLeader found.leaderText))
    | none => askNodes config d (w.note .statusUnusable)

end Discovery

end SqlCluster
