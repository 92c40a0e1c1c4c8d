import SqlCluster.Client
import SqlCluster.Proofs.Peer.Usable

/-!
Dialable directories. A client comes by directories in two ways (`Directory.IsHeld`): it is seeded
from its connection URL, and it reads topology documents. All peers of such directories are usable,
so there are URLs for all of them exactly if URLs can be built with all their hosts.
-/

namespace SqlCluster

namespace Directory

variable {d : Directory} {p : Peer}

theorem mem_foldl_addPeer {peers ps : List Peer} :
    p ∈ ps.foldl addPeer peers ↔ p ∈ peers ∨ p ∈ ps := by
  induction ps generalizing peers with
  | nil => simp
  | cons q ps ih =>
    have hadd : p ∈ addPeer peers q ↔ p ∈ peers ∨ p = q := by
      rw [addPeer]
      split
      · next h => exact ⟨.inl, fun | .inl h => h | .inr rfl => h⟩
      · simp
    rw [List.foldl_cons, ih, hadd, List.mem_cons, or_assoc]

theorem mem_peers : p ∈ d.peers ↔ d.leader = some p ∨ p ∈ d.followers := by
  rw [peers, mem_foldl_addPeer, Option.mem_toList]

/-- There is a URL for every operation at every peer, under every configuration. -/
def IsDialable (d : Directory) : Prop :=
  ∀ p ∈ d.peers, ∀ (c : Config) (op : Operation) (queue : Bool), (c.requestUrl? op p queue).isSome

/-- The directories that a client comes by: the one of its connection URL, and those that topology
documents tell of. -/
inductive IsHeld : Directory → Prop
  | seed {url : String} {c : Config} (accepted : Config.ofUrl url = .ok c) : IsHeld c.seed
  | status {document : Value} {d : Directory} (told : Topology.ofStatus? document = some d) :
      IsHeld d
  | nodes {document : Value} {d : Directory} (told : Topology.ofNodes? document = some d) : IsHeld d

end Directory

/-! ### Topology documents -/

namespace Topology

variable {d : Directory} {p : Peer}

theorem isUsable_of_peer? {v : Value} (h : peer? v = some p) : p.IsUsable := by
  cases v with
  | text address =>
    rw [peer?] at h
    split at h
    · cases h
    · cases haddress : Peer.ofAddress address with
      | error cause => rw [haddress] at h; cases h
      | ok q =>
        rw [haddress] at h
        cases h
        exact Peer.isUsable_of_ofAddress haddress
  | _ => cases h

theorem mem_of_ledBy? {id : String} {nodes : List (String × Peer)} (h : ledBy? id nodes = some d)
    (hp : p ∈ d.peers) : ∃ i, (i, p) ∈ nodes := by
  simp only [ledBy?, Option.bind_eq_bind, Option.bind_eq_some_iff, Option.some.injEq] at h
  obtain ⟨⟨i, leader⟩, hleader, rfl⟩ := h
  rw [Directory.mem_peers] at hp
  obtain hp | hp := hp
  · cases hp
    exact ⟨i, by simpa using List.mem_of_find?_eq_some hleader⟩
  · obtain ⟨⟨i, q⟩, hq, rfl⟩ := List.mem_map.1 hp
    exact ⟨i, (List.mem_filter.1 hq).1⟩

theorem mem_of_ledByFirst? {nodes : List (Bool × Peer)} (h : ledByFirst? nodes = some d)
    (hp : p ∈ d.peers) : ∃ leads, (leads, p) ∈ nodes := by
  simp only [ledByFirst?] at h
  split at h
  · next leads leader behind hbehind =>
    cases h
    have hmem : ∀ q ∈ (leads, leader) :: behind, q ∈ nodes := fun q hq =>
      (List.dropWhile_suffix _).subset (hbehind ▸ hq)
    rw [Directory.mem_peers] at hp
    obtain hp | hp := hp
    · cases hp
      exact ⟨leads, hmem _ (by simp)⟩
    · obtain ⟨⟨b, q⟩, hq, rfl⟩ := List.mem_map.1 hp
      obtain hq | hq := List.mem_append.1 hq
      · exact ⟨b, (List.takeWhile_prefix _).subset hq⟩
      · exact ⟨b, hmem _ (List.mem_cons_of_mem _ hq)⟩
  · cases h

theorem isUsable_of_ofStatus? {document : Value} (h : ofStatus? document = some d)
    (hp : p ∈ d.peers) : p.IsUsable := by
  simp only [ofStatus?, Option.bind_eq_bind, Option.bind_eq_some_iff] at h
  obtain ⟨_, _, store, _, id, _, metadata, _, h⟩ := h
  obtain ⟨i, hi⟩ := mem_of_ledBy? h hp
  obtain ⟨_, _, hnode⟩ := List.mem_filterMap.1 hi
  simp only [Option.bind_eq_bind, Option.bind_eq_some_iff, Option.some.injEq] at hnode
  obtain ⟨node, _, q, hq, heq⟩ := hnode
  cases heq
  exact isUsable_of_peer? hq

theorem isUsable_of_ofNodes? {document : Value} (h : ofNodes? document = some d)
    (hp : p ∈ d.peers) : p.IsUsable := by
  obtain ⟨leads, hleads⟩ := mem_of_ledByFirst? h hp
  obtain ⟨node, _, hnode⟩ := List.mem_filterMap.1 hleads
  simp only [usable?, Option.bind_eq_bind, Option.bind_eq_some_iff] at hnode
  obtain ⟨_, _, hnode⟩ := hnode
  split at hnode
  · cases hnode
  · simp only [Option.bind_eq_some_iff, Option.some.injEq] at hnode
    obtain ⟨q, hq, heq⟩ := hnode
    cases heq
    exact isUsable_of_peer? hq

end Topology

/-! ### Directories that a client comes by -/

namespace Directory

variable {d : Directory} {p : Peer}

theorem IsHeld.isUsable (h : d.IsHeld) (hp : p ∈ d.peers) : p.IsUsable := by
  cases h with
  | seed accepted =>
    obtain rfl : p = _ := by simpa [Config.seed, Directory.seed, mem_peers, eq_comm] using hp
    exact Config.isUsable_of_ofUrl accepted
  | status told => exact Topology.isUsable_of_ofStatus? told hp
  | nodes told => exact Topology.isUsable_of_ofNodes? told hp

/-- A directory that a client comes by is dialable exactly if every host in it is an address or a
name: nothing else can go wrong, but nothing that reads addresses sees to this. -/
theorem IsHeld.isDialable_iff (h : d.IsHeld) :
    d.IsDialable ↔ ∀ p ∈ d.peers, Url.Host.IsBuildable p.host.toList := by
  constructor
  · intro hd p hp
    exact ((h.isUsable hp).isSome_requestUrl?_iff {} .status false).1 (hd p hp {} .status false)
  · intro hd p hp c op queue
    exact ((h.isUsable hp).isSome_requestUrl?_iff c op queue).2 (hd p hp)

/-- The node document of a leader and a follower at an address. -/
def nodesWith (address : String) : Value :=
  .dict [("1", .dict [("api_addr", .text "n1:4001"), ("leader", .bool true)]),
    ("2", .dict [("api_addr", .text address)])]

theorem isDialable_iff_named :
    Topology.ofNodes? (nodesWith "[::1]:4003") =
      some ⟨some ⟨"n1", "4001"⟩, [⟨"::1", "4003"⟩]⟩ ∧
    IsDialable ⟨some ⟨"n1", "4001"⟩, [⟨"::1", "4003"⟩]⟩ := by
  have htold : Topology.ofNodes? (nodesWith "[::1]:4003") =
      some ⟨some ⟨"n1", "4001"⟩, [⟨"::1", "4003"⟩]⟩ := by decide +kernel
  exact ⟨htold, (IsHeld.nodes htold).isDialable_iff.2 (by decide +kernel)⟩

/-- A node whose host holds a blank is not left out of a directory, and there is no URL for it. -/
theorem not_isDialable_of_blank :
    Topology.ofNodes? (nodesWith "a b:1") = some ⟨some ⟨"n1", "4001"⟩, [⟨"a b", "1"⟩]⟩ ∧
    ¬ IsDialable ⟨some ⟨"n1", "4001"⟩, [⟨"a b", "1"⟩]⟩ := by
  refine ⟨by decide +kernel, fun h => ?_⟩
  have := h ⟨"a b", "1"⟩ (by decide) {} .status false
  exact absurd this (by decide +kernel)

end Directory

end SqlCluster
