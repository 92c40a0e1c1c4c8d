import Mathlib.Data.List.Nodup
import SqlCluster.Proofs.Directory.Dialable

/-!
Leaders of directories. Every directory that a client comes by has a leader, because a document that
tells of none gives no directory. The leader comes first among the peers, and no peer comes twice.
-/

namespace SqlCluster

namespace Topology

variable {d : Directory} {document : Value}

theorem exists_leader_of_ledBy? {id : String} {nodes : List (String × Peer)}
    (h : ledBy? id nodes = some d) : ∃ leader, d.leader = some leader := by
  simp only [ledBy?, Option.bind_eq_bind, Option.bind_eq_some_iff, Option.some.injEq] at h
  obtain ⟨⟨_, leader⟩, _, rfl⟩ := h
  exact ⟨leader, rfl⟩

theorem exists_leader_of_ledByFirst? {nodes : List (Bool × Peer)} (h : ledByFirst? nodes = some d) :
    ∃ leader, d.leader = some leader := by
  simp only [ledByFirst?] at h
  split at h
  next leader _ _ =>
    cases h
    exact ⟨leader, rfl⟩
  · cases h

theorem exists_leader_of_ofStatus? (h : ofStatus? document = some d) :
    ∃ leader, d.leader = some leader := by
  simp only [ofStatus?, Option.bind_eq_bind, Option.bind_eq_some_iff] at h
  obtain ⟨_, _, _, _, _, _, _, _, h⟩ := h
  exact exists_leader_of_ledBy? h

end Topology

namespace Directory

variable {d : Directory} {p : Peer} {peers ps : List Peer}

theorem prefix_addPeer : peers <+: addPeer peers p := by
  rw [addPeer]
  split
  · exact List.prefix_rfl
  · exact List.prefix_append peers [p]

/-- Peers that are added come behind those that are there. -/
theorem prefix_foldl_addPeer : peers <+: ps.foldl addPeer peers := by
  induction ps generalizing peers with
  | nil => exact List.prefix_rfl
  | cons p ps ih => exact prefix_addPeer.trans ih

theorem nodup_addPeer (h : peers.Nodup) : (addPeer peers p).Nodup := by
  rw [addPeer]
  split
  · exact h
  next hp => exact h.append (List.nodup_singleton p) (by simpa using hp)

theorem nodup_foldl_addPeer (h : peers.Nodup) : (ps.foldl addPeer peers).Nodup := by
  induction ps generalizing peers with
  | nil => exact h
  | cons p ps ih => exact ih (nodup_addPeer h)

theorem nodup_peers (d : Directory) : d.peers.Nodup := by
  refine nodup_foldl_addPeer ?_
  cases d.leader with
  | none => exact List.nodup_nil
  | some leader => exact List.nodup_singleton leader

theorem head?_peers (h : d.leader = some p) : d.peers.head? = some p := by
  obtain ⟨rest, hrest⟩ : [p] <+: d.peers := by
    rw [peers, h]
    exact prefix_foldl_addPeer
  rw [← hrest]
  rfl

theorem IsHeld.exists_leader (h : d.IsHeld) : ∃ leader, d.leader = some leader := by
  cases h with
  | seed => exact ⟨_, rfl⟩
  | status told => exact Topology.exists_leader_of_ofStatus? told
  | nodes told => exact Topology.exists_leader_of_ledByFirst? told

end Directory

end SqlCluster
