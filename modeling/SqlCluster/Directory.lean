import SqlCluster.Peer

/-!
Directories: the known nodes of a cluster in the order in which they are tried. The leader, where it
is known, comes first, then the followers, and no node comes twice.
-/

namespace SqlCluster

/-- The leader and the followers of a cluster. -/
structure Directory where
  leader : Option Peer
  followers : List Peer
  deriving DecidableEq, Repr

namespace Directory

/-- Adds a peer at the end of a list that does not have it. -/
def addPeer (peers : List Peer) (p : Peer) : List Peer := if p ∈ peers then peers else peers ++ [p]

/-- The nodes in the order in which they are tried. -/
def peers (d : Directory) : List Peer := d.followers.foldl addPeer d.leader.toList

/-- The directory that holds one peer, taken to lead. -/
def seed (p : Peer) : Directory := ⟨some p, []⟩

end Directory

end SqlCluster
