import SqlCluster.Proofs.Dict
import SqlCluster.Proofs.Directory.Told

/-!
The shapes of topology documents. Nodes with their identifiers and addresses can be told of in a
status document that names the leader, and in node documents of three shapes, which flag it. All of
them tell of the same directory (`told_in_everyShape`): the named node leads it, if that node has a
usable address, and all others that have one follow.
-/

namespace SqlCluster

namespace Topology

variable {id : String} {ns : List (String × Value)}

/-- The directory of nodes, given by their identifiers and addresses, that one of them leads. -/
def led? (id : String) (ns : List (String × Value)) : Option Directory := do
  let leader ← peer? (← Dict.get? ns id)
  some ⟨some leader, (ns.filter fun n => n.1 ≠ id).filterMap fun n => peer? n.2⟩

/-! ### Documents -/

/-- The metadata of nodes. -/
def metadataOf (ns : List (String × Value)) : Dict Value :=
  ns.map fun n => (n.1, .dict [("api_addr", n.2)])

/-- A status document with something in the place of the leader. -/
def statusOf (leader : Value) (ns : List (String × Value)) : Value :=
  .dict [("store", .dict [("leader", leader), ("metadata", .dict (metadataOf ns))])]

/-- A node as node documents have it: it can be reached, and it claims to lead if it has the
identifier of the leader. -/
def nodeOf (id : String) (n : String × Value) : Value :=
  .dict [("api_addr", n.2), ("reachable", .bool true), ("leader", .bool (n.1 == id))]

/-- A node document with the nodes under their identifiers. -/
def mapOf (id : String) (ns : List (String × Value)) : Value :=
  .dict (ns.map fun n => (n.1, nodeOf id n))

/-- A node document that is a list of the nodes. -/
def listOf (id : String) (ns : List (String × Value)) : Value := .list (ns.map (nodeOf id))

/-- A node document with the list of the nodes under `nodes`. -/
def wrappedOf (id : String) (ns : List (String × Value)) : Value := .dict [("nodes", listOf id ns)]

theorem nodes_listOf : nodes (listOf id ns) = ns.map (nodeOf id) := rfl

theorem nodes_wrappedOf : nodes (wrappedOf id ns) = ns.map (nodeOf id) := rfl

/-- A node whose identifier is `nodes` is not taken for a list of nodes. -/
theorem nodes_mapOf : nodes (mapOf id ns) = ns.map (nodeOf id) := by
  have hvalues : (ns.map fun n => (n.1, nodeOf id n)).map Prod.snd = ns.map (nodeOf id) := by
    rw [List.map_map]
    rfl
  have hfield : (mapOf id ns).field "nodes" =
      ((Dict.get? ns "nodes").map fun a => nodeOf id ("nodes", a)).getD .null :=
    congrArg (fun v : Option Value => v.getD .null) (Dict.get?_map ns (nodeOf id) "nodes")
  rw [mapOf] at hfield ⊢
  rw [nodes, hfield, hvalues]
  cases Dict.get? ns "nodes" <;> rfl

/-! ### The nodes that have a peer -/

/-- The nodes that have a peer. -/
def peersOf (ns : List (String × Value)) : List (String × Peer) :=
  ns.filterMap fun n => (peer? n.2).map (n.1, ·)

theorem peersOf_append (ns ms : List (String × Value)) :
    peersOf (ns ++ ms) = peersOf ns ++ peersOf ms := List.filterMap_append

theorem listed_metadataOf (ns : List (String × Value)) : listed (metadataOf ns) = peersOf ns := by
  rw [listed_eq, metadataOf, List.filterMap_map]
  rfl

theorem usable?_nodeOf (id : String) (n : String × Value) :
    usable? (nodeOf id n) = (peer? n.2).map (n.1 == id, ·) := by
  have hleader : isFlag true "leader" (nodeOf id n) = (n.1 == id) := by
    rw [Bool.eq_iff_iff, isFlag_iff]
    show Value.bool (n.1 == id) = .bool true ↔ _
    rw [Value.bool.injEq]
  rw [usable?, hleader]
  exact Option.map_eq_bind.symm

theorem filterMap_usable?_nodeOf (id : String) (ns : List (String × Value)) :
    (ns.map (nodeOf id)).filterMap usable? = (peersOf ns).map fun n => (n.1 == id, n.2) := by
  rw [List.filterMap_map, peersOf, List.map_filterMap]
  refine List.filterMap_congr fun n _ => ?_
  rw [Function.comp_apply, usable?_nodeOf, Option.map_map]
  rfl

/-- Nodes without the identifier of the leader among nodes that have a peer. -/
theorem ne_of_mem_peersOf (h : id ∉ ns.map Prod.fst) : ∀ n ∈ peersOf ns, n.1 ≠ id := by
  rintro ⟨i, p⟩ hn rfl
  obtain ⟨n, hmem, hn⟩ := List.mem_filterMap.1 hn
  simp only [Option.map_eq_some_iff, Prod.mk.injEq] at hn
  obtain ⟨_, -, rfl, -⟩ := hn
  exact h (List.mem_map_of_mem hmem)

theorem map_snd_peersOf (ns : List (String × Value)) :
    (peersOf ns).map Prod.snd = ns.filterMap fun n => peer? n.2 := by
  rw [peersOf, List.map_filterMap]
  refine List.filterMap_congr fun n _ => ?_
  cases peer? n.2 <;> rfl

/-! ### What the documents tell -/

theorem led?_append {before behind : List (String × Value)} {a : Value}
    (hbefore : id ∉ before.map Prod.fst) (hbehind : id ∉ behind.map Prod.fst) :
    led? id (before ++ (id, a) :: behind) =
      (peer? a).map fun p => ⟨some p, (peersOf before ++ peersOf behind).map Prod.snd⟩ := by
  have hothers : (before ++ (id, a) :: behind).filter (fun n => n.1 ≠ id) = before ++ behind := by
    have hkept {part : List (String × Value)} (h : id ∉ part.map Prod.fst) :
        part.filter (fun n => n.1 ≠ id) = part :=
      List.filter_eq_self.2 fun n hn => decide_eq_true fun hid => h (List.mem_map.2 ⟨n, hn, hid⟩)
    rw [List.filter_append, List.filter_cons_of_neg (by simp), hkept hbefore, hkept hbehind]
  rw [led?, Dict.get?_append hbefore, hothers, ← map_snd_peersOf, peersOf_append]
  exact Option.map_eq_bind.symm

/-- Where no node that has a peer is the named one, neither way finds a leader. -/
theorem ledBy?_eq_none_of_peersOf {ps : List (String × Peer)} (h : ∀ n ∈ ps, n.1 ≠ id) :
    ledBy? id ps = none ∧ ledByFirst? (ps.map fun n => (n.1 == id, n.2)) = none := by
  refine ⟨ledBy?_eq_none h, ledByFirst?_eq_none fun n hn => ?_⟩
  obtain ⟨m, hm, rfl⟩ := List.mem_map.1 hn
  exact beq_eq_false_iff_ne.2 (h m hm)

/-- The named node leads the nodes that have a peer, whether it is found by its identifier or by its
flag. -/
theorem ledBy?_peersOf (id : String) (hids : (ns.map Prod.fst).Nodup) :
    ledBy? id (peersOf ns) = led? id ns ∧
      ledByFirst? ((peersOf ns).map fun n => (n.1 == id, n.2)) = led? id ns := by
  by_cases hid : id ∈ ns.map Prod.fst
  · obtain ⟨⟨i, a⟩, hmem, rfl⟩ := List.mem_map.1 hid
    obtain ⟨before, behind, rfl⟩ := List.append_of_mem hmem
    obtain ⟨hbefore, hbehind⟩ := notMem_of_nodup_append hids
    have hbefore' := ne_of_mem_peersOf hbefore
    have hbehind' := ne_of_mem_peersOf hbehind
    rw [led?_append hbefore hbehind]
    cases ha : peer? a with
    | none =>
      have hpeers : peersOf (before ++ (i, a) :: behind) = peersOf before ++ peersOf behind := by
        simp [peersOf, ha]
      rw [hpeers]
      exact ledBy?_eq_none_of_peersOf fun n hn =>
        (List.mem_append.1 hn).elim (hbefore' n) (hbehind' n)
    | some leader =>
      have hpeers : peersOf (before ++ (i, a) :: behind) =
          peersOf before ++ (i, leader) :: peersOf behind := by
        simp [peersOf, ha]
      have hflags : (peersOf before ++ (i, leader) :: peersOf behind).map
            (fun n => (n.1 == i, n.2)) =
          (peersOf before).map (fun n => (n.1 == i, n.2)) ++
            (true, leader) :: (peersOf behind).map fun n => (n.1 == i, n.2) := by
        simp
      rw [hpeers, hflags, ledBy?_append hbefore' hbehind', ledByFirst?_append]
      · simp [Function.comp_def]
      · intro n hn
        obtain ⟨m, hm, rfl⟩ := List.mem_map.1 hn
        exact beq_eq_false_iff_ne.2 (hbefore' m hm)
  · have hled : led? id ns = none := by rw [led?, Dict.get?_eq_none hid]; rfl
    rw [hled]
    exact ledBy?_eq_none_of_peersOf (ne_of_mem_peersOf hid)

/-- A status document and node documents of all shapes tell the same of the same nodes. -/
theorem told_in_everyShape (hids : (ns.map Prod.fst).Nodup) (hid : id ≠ "") :
    ofStatus? (statusOf (.dict [("node_id", .text id)]) ns) = led? id ns ∧
      ofStatus? (statusOf (.text id) ns) = led? id ns ∧
      ofNodes? (mapOf id ns) = led? id ns ∧
      ofNodes? (wrappedOf id ns) = led? id ns ∧
      ofNodes? (listOf id ns) = led? id ns := by
  obtain ⟨hnamed, hflagged⟩ := ledBy?_peersOf id hids
  have hstatus (leader : Value)
      (hnames : ∀ metadata, Names (.dict [("leader", leader), ("metadata", metadata)]) id) :
      ofStatus? (statusOf leader ns) = led? id ns := by
    rw [ofStatus?_eq_of_metadata ⟨hid, _, rfl, hnames _, rfl⟩, listed_metadataOf, hnamed]
  have hnodes (document : Value) (h : nodes document = ns.map (nodeOf id)) :
      ofNodes? document = led? id ns := by
    rw [ofNodes?, h, filterMap_usable?_nodeOf, hflagged]
  exact ⟨hstatus _ fun _ => .node rfl rfl, hstatus _ fun _ => .plain rfl, hnodes _ nodes_mapOf,
    hnodes _ nodes_wrappedOf, hnodes _ nodes_listOf⟩

/-- Nodes of which one has the identifier `nodes`, two have the same address, and two no usable
one. -/
def mixed : List (String × Value) :=
  [("a", .text "n1:80"), ("b", .int 4001), ("nodes", .text "[::1]:80"), ("c", .text "n2:0"),
    ("d", .text "n1:80")]

theorem told_in_everyShape_mixed :
    (mixed.map Prod.fst).Nodup ∧
      (ofStatus? (statusOf (.text "nodes") mixed) =
          some ⟨some ⟨"::1", "80"⟩, [⟨"n1", "80"⟩, ⟨"n1", "80"⟩]⟩ ∧
        ofNodes? (mapOf "nodes" mixed) =
          some ⟨some ⟨"::1", "80"⟩, [⟨"n1", "80"⟩, ⟨"n1", "80"⟩]⟩) ∧
      ofStatus? (statusOf (.dict [("node_id", .text "c")]) mixed) = none ∧
      ofNodes? (listOf "c" mixed) = none := by
  have hids : (mixed.map Prod.fst).Nodup := by decide
  have hled : led? "nodes" mixed =
      some ⟨some ⟨"::1", "80"⟩, [⟨"n1", "80"⟩, ⟨"n1", "80"⟩]⟩ := by decide +kernel
  have hnone : led? "c" mixed = none := by decide +kernel
  obtain ⟨-, hstatus, hmap, -⟩ := told_in_everyShape hids (by decide : "nodes" ≠ "")
  obtain ⟨hstatus', -, -, -, hlist'⟩ := told_in_everyShape hids (by decide : "c" ≠ "")
  exact ⟨hids, ⟨hstatus.trans hled, hmap.trans hled⟩, hstatus'.trans hnone, hlist'.trans hnone⟩

end Topology

end SqlCluster
