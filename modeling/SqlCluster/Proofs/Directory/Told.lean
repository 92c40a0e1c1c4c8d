import SqlCluster.Proofs.Directory.Leader
import SqlCluster.Proofs.Json.Document

/-!
What topology documents tell. A node of a document counts if it can be used, and the nodes that
count are the peers of the directory, in the order of the document (`Topology.Lists`). The first of
them that claims to lead does so (`Topology.ledByFirst_of_ofNodes?`); in a status document it is the
one that the leader is named by (`Topology.ledByNamed_of_ofStatus?`).
-/

namespace SqlCluster

theorem Peer.ofAddress_empty : Peer.ofAddress "" = .error (.noHost "") := by
  decide +kernel

namespace Topology

/-- A node is an object with the address of a peer. -/
structure HasAddress (node : Value) (p : Peer) : Prop where
  object : ∃ entries, node = .dict entries
  address : ∃ a, node.field "api_addr" = .text a ∧ Peer.ofAddress a = .ok p

/-- A node counts as a peer: it has the address of the peer, and it is not marked as one that cannot
be reached. -/
structure Counts (node : Value) (p : Peer) : Prop where
  addressed : HasAddress node p
  reachable : node.field "reachable" ≠ .bool false

/-- A node claims to lead. -/
def Claims (node : Value) : Prop := node.field "leader" = .bool true

/-- The peers that the entries of a document stand for, in their order; entries that stand for none
are passed over. -/
inductive Lists {α : Type} (stands : α → Peer → Prop) : List α → List Peer → Prop
  | nil : Lists stands [] []
  | used {a : α} {as : List α} {p : Peer} {ps : List Peer} (usable : stands a p)
      (rest : Lists stands as ps) : Lists stands (a :: as) (p :: ps)
  | passed {a : α} {as : List α} {ps : List Peer} (unusable : ∀ p, ¬ stands a p)
      (rest : Lists stands as ps) : Lists stands (a :: as) ps

/-- The store of a status document names the leader by an identifier: under `node_id`, or under
`addr` where the first counts as absent, or with nothing else. -/
inductive Names (store : Value) (id : String) : Prop
  | node {info : Dict Value} (leader : store.field "leader" = .dict info)
      (named : (Value.dict info).field "node_id" = .text id) : Names store id
  | address {info : Dict Value} (leader : store.field "leader" = .dict info)
      (absent : ((Value.dict info).field "node_id").isTruthy = false)
      (named : (Value.dict info).field "addr" = .text id) : Names store id
  | plain (named : store.field "leader" = .text id) : Names store id

/-- A status document names the leader by an identifier and lists nodes by theirs. -/
def Says (document : Value) (id : String) (metadata : Dict Value) : Prop :=
  id ≠ "" ∧ ∃ store, document.field "store" = .dict store ∧ Names (.dict store) id ∧
    (Value.dict store).field "metadata" = .dict metadata

/-- A directory is led by the first node that counts and claims to lead, and all other nodes that
count follow in their order. -/
def LedByFirst (nodes : List Value) (d : Directory) : Prop :=
  ∃ before node behind leader, nodes = before ++ node :: behind ∧ Counts node leader ∧
    Claims node ∧ (∀ n ∈ before, ∀ p, Counts n p → ¬ Claims n) ∧ d.leader = some leader ∧
    Lists Counts (before ++ behind) d.followers

/-- A directory is led by the node that a status document names the leader by, and all other nodes
with an address follow in their order. -/
def LedByNamed (document : Value) (d : Directory) : Prop :=
  ∃ id before node behind leader, Says document id (before ++ (id, node) :: behind) ∧
    HasAddress node leader ∧ d.leader = some leader ∧
    Lists (fun e p => HasAddress e.2 p) (before ++ behind) d.followers

variable {α : Type} {d : Directory} {document : Value} {node v : Value} {p leader : Peer}
  {id : String} {metadata : Dict Value}

/-! ### Entries -/

theorem lists_filterMap {stands : α → Peer → Prop} {f : α → Option Peer}
    (h : ∀ a p, f a = some p ↔ stands a p) (as : List α) : Lists stands as (as.filterMap f) := by
  induction as with
  | nil => exact .nil
  | cons a as ih =>
    cases ha : f a with
    | none =>
      rw [List.filterMap_cons_none ha]
      refine .passed (fun p hp => ?_) ih
      rw [(h a p).2 hp] at ha
      cases ha
    | some p =>
      rw [List.filterMap_cons_some ha]
      exact .used ((h a p).1 ha) ih

theorem peer?_eq_some : peer? v = some p ↔ ∃ a, v = .text a ∧ Peer.ofAddress a = .ok p := by
  cases v with
  | text a =>
    rw [peer?]
    split
    next hempty =>
      subst hempty
      simp [Peer.ofAddress_empty]
    next => cases hp : Peer.ofAddress a <;> simp [hp, Except.toOption]
  | _ => simp [peer?]

theorem entries?_eq_some {es : Dict Value} : entries? v = some es ↔ v = .dict es := by
  cases v <;> simp [entries?]

theorem isFlag_iff {b : Bool} {field : String} :
    isFlag b field node ↔ node.field field = .bool b := by
  rw [isFlag]
  split
  next c hc => simp [hc]
  next hc => simpa using hc b

theorem usable?_eq_some {b : Bool} :
    usable? node = some (b, p) ↔ Counts node p ∧ b = isFlag true "leader" node := by
  cases hes : entries? node with
  | none =>
    have hnode : ∀ es, node ≠ .dict es := fun es h => by
      rw [entries?_eq_some.2 h] at hes
      cases hes
    simp only [usable?, hes]
    constructor
    · intro h
      cases h
    · intro h
      exact absurd h.1.addressed.object.choose_spec (hnode _)
  | some es =>
    simp only [usable?, hes, Option.bind_eq_bind, Option.bind_some]
    split
    next hflag =>
      constructor
      · intro h
        cases h
      · intro h
        exact absurd (isFlag_iff.1 hflag) h.1.reachable
    next hflag =>
      rw [isFlag_iff] at hflag
      simp only [Option.bind_eq_some_iff, peer?_eq_some, Option.some.injEq, Prod.mk.injEq]
      constructor
      · rintro ⟨q, hq, rfl, rfl⟩
        exact ⟨⟨⟨⟨es, entries?_eq_some.1 hes⟩, hq⟩, hflag⟩, rfl⟩
      · rintro ⟨h, rfl⟩
        exact ⟨p, h.addressed.address, rfl, rfl⟩

/-! ### Node documents -/

/-- The peer that a node counts as. -/
def counted? (node : Value) : Option Peer := (usable? node).map Prod.snd

theorem counted?_eq_some : counted? node = some p ↔ Counts node p := by
  simp only [counted?, Option.map_eq_some_iff, Prod.exists, usable?_eq_some]
  constructor
  · rintro ⟨_, q, ⟨h, -⟩, rfl⟩
    exact h
  · intro h
    exact ⟨_, p, ⟨h, rfl⟩, rfl⟩

theorem usable?_of_claims (h : Counts node p) (hclaims : Claims node) :
    usable? node = some (true, p) :=
  usable?_eq_some.2 ⟨h, (isFlag_iff.2 hclaims).symm⟩

/-- Of the nodes before the first that claims to lead, none does. -/
theorem leads_of_mem_filterMap {ns : List Value} (h : ∀ n ∈ ns, ∀ p, Counts n p → ¬ Claims n) :
    ∀ n ∈ ns.filterMap usable?, n.1 = false := by
  rintro ⟨b, p⟩ hn
  obtain ⟨n, hmem, hn⟩ := List.mem_filterMap.1 hn
  obtain ⟨hcounts, rfl⟩ := usable?_eq_some.1 hn
  exact Bool.eq_false_iff.2 fun hflag => h n hmem p hcounts (isFlag_iff.1 hflag)

theorem ledByFirst?_append {before behind : List (Bool × Peer)}
    (h : ∀ n ∈ before, n.1 = false) :
    ledByFirst? (before ++ (true, leader) :: behind) =
      some ⟨some leader, (before ++ behind).map Prod.snd⟩ := by
  have hpasses : ∀ n ∈ before, (!n.1) = true := fun n hn => by rw [h n hn]; rfl
  rw [ledByFirst?]
  dsimp only
  rw [List.takeWhile_append_of_pos hpasses, List.dropWhile_append_of_pos hpasses]
  simp

theorem ledByFirst?_eq_none {ns : List (Bool × Peer)} (h : ∀ n ∈ ns, n.1 = false) :
    ledByFirst? ns = none := by
  have hpasses : ∀ n ∈ ns, (!n.1) = true := fun n hn => by rw [h n hn]; rfl
  have hdrop : ns.dropWhile (fun n => !n.1) = [] := List.dropWhile_eq_nil_iff.2 hpasses
  rw [ledByFirst?]
  dsimp only
  rw [hdrop]

/-- The first node that counts and claims to lead does so, and all others that count follow. -/
theorem ofNodes?_of_first {before behind : List Value}
    (hnodes : nodes document = before ++ node :: behind) (hcounts : Counts node leader)
    (hclaims : Claims node) (hfirst : ∀ n ∈ before, ∀ p, Counts n p → ¬ Claims n) :
    ofNodes? document = some ⟨some leader, (before ++ behind).filterMap counted?⟩ := by
  rw [ofNodes?, hnodes, List.filterMap_append,
    List.filterMap_cons_some (usable?_of_claims hcounts hclaims),
    ledByFirst?_append (leads_of_mem_filterMap hfirst), ← List.filterMap_append,
    List.map_filterMap]
  rfl

theorem ofNodes?_eq_none (h : ∀ n ∈ nodes document, ∀ p, Counts n p → ¬ Claims n) :
    ofNodes? document = none :=
  ledByFirst?_eq_none (leads_of_mem_filterMap h)

theorem exists_first (h : ∃ n ∈ nodes document, Claims n ∧ ∃ p, Counts n p) :
    ∃ before node behind p, nodes document = before ++ node :: behind ∧ Counts node p ∧
      Claims node ∧ ∀ n ∈ before, ∀ q, Counts n q → ¬ Claims n := by
  classical
  obtain ⟨n, hmem, hn⟩ := h
  have hsome : ((nodes document).find? fun n => decide (Claims n ∧ ∃ p, Counts n p)).isSome :=
    List.find?_isSome.2 ⟨n, hmem, decide_eq_true hn⟩
  obtain ⟨node, hfound⟩ := Option.isSome_iff_exists.1 hsome
  obtain ⟨hnode, before, behind, hsplit, hbefore⟩ := List.find?_eq_some_iff_append.1 hfound
  obtain ⟨hclaims, p, hcounts⟩ := of_decide_eq_true hnode
  refine ⟨before, node, behind, p, hsplit, hcounts, hclaims, fun m hm q hq hm' => ?_⟩
  exact absurd (hbefore m hm) (by simpa using ⟨hm', q, hq⟩)

theorem isSome_ofNodes?_iff :
    (ofNodes? document).isSome ↔ ∃ n ∈ nodes document, Claims n ∧ ∃ p, Counts n p := by
  constructor
  · intro hsome
    by_contra hnone
    rw [ofNodes?_eq_none fun n hn p hp hclaims => hnone ⟨n, hn, hclaims, p, hp⟩] at hsome
    cases hsome
  · intro h
    obtain ⟨before, node, behind, p, hnodes, hcounts, hclaims, hfirst⟩ := exists_first h
    rw [ofNodes?_of_first hnodes hcounts hclaims hfirst]
    rfl

theorem ledByFirst_of_ofNodes? (h : ofNodes? document = some d) :
    LedByFirst (nodes document) d := by
  obtain ⟨before, node, behind, leader, hnodes, hcounts, hclaims, hfirst⟩ :=
    exists_first (isSome_ofNodes?_iff.1 (by rw [h]; rfl))
  rw [ofNodes?_of_first hnodes hcounts hclaims hfirst, Option.some.injEq] at h
  subst h
  exact ⟨before, node, behind, leader, hnodes, hcounts, hclaims, hfirst, rfl,
    lists_filterMap (fun _ _ => counted?_eq_some) _⟩

/-- A node that does not count makes no difference to what a document tells. -/
theorem ofNodes?_of_uncounted {document' : Value} {before behind : List Value}
    (hnodes : nodes document = before ++ node :: behind)
    (hnodes' : nodes document' = before ++ behind) (hnode : ∀ p, ¬ Counts node p) :
    ofNodes? document = ofNodes? document' := by
  have hnone : usable? node = none := by
    refine Option.eq_none_iff_forall_ne_some.2 fun ⟨b, p⟩ h => ?_
    exact hnode p (usable?_eq_some.1 h).1
  rw [ofNodes?, ofNodes?, hnodes, hnodes', List.filterMap_append, List.filterMap_append,
    List.filterMap_cons_none hnone]

/-! ### Status documents -/

theorem field?_eq_some_of_field {key : String} {es : Dict Value} (h : v.field key = .dict es) :
    v.field? key = some (.dict es) := by
  rw [Value.field] at h
  cases hfield : v.field? key with
  | none =>
    rw [hfield] at h
    cases h
  | some w =>
    rw [hfield] at h
    exact congrArg some h

theorem leaderId?_eq_some {store : Value} :
    leaderId? store = some id ↔ id ≠ "" ∧ Names store id := by
  rw [leaderId?]
  dsimp only
  constructor
  · intro h
    split at h
    next i hi =>
      split at h
      · cases h
      next hempty =>
        cases h
        refine ⟨hempty, ?_⟩
        split at hi
        next info hinfo =>
          split at hi
          · exact .node hinfo hi
          next habsent => exact .address hinfo (Bool.eq_false_iff.2 habsent) hi
        next => exact .plain hi
    next => cases h
  · rintro ⟨hid, ⟨hinfo, hnamed⟩ | ⟨hinfo, habsent, hnamed⟩ | hnamed⟩
    · simp [hinfo, hnamed, hid, Value.isTruthy]
    · simp [hinfo, hnamed, habsent, hid]
    · simp [hnamed, hid]

/-- The node under an identifier, if it has an address. -/
def asListed? (e : String × Value) : Option (String × Peer) :=
  (entries? e.2).bind fun node => (peer? ((Value.dict node).field "api_addr")).map (e.1, ·)

theorem listed_eq (metadata : Dict Value) : listed metadata = metadata.filterMap asListed? := by
  refine List.filterMap_congr fun e _ => ?_
  simp [asListed?, Option.map_eq_bind]

theorem asListed?_eq_some {e : String × Value} {i : String} :
    asListed? e = some (i, p) ↔ i = e.1 ∧ HasAddress e.2 p := by
  simp only [asListed?, Option.bind_eq_some_iff, entries?_eq_some, Option.map_eq_some_iff,
    peer?_eq_some, Prod.mk.injEq]
  constructor
  · rintro ⟨node, hnode, q, hq, rfl, rfl⟩
    exact ⟨rfl, ⟨node, hnode⟩, by rw [hnode]; exact hq⟩
  · rintro ⟨rfl, ⟨node, hnode⟩, haddress⟩
    exact ⟨node, hnode, p, by rw [← hnode]; exact haddress, rfl, rfl⟩

theorem ofStatus?_eq_of_metadata (h : Says document id metadata) :
    ofStatus? document = ledBy? id (listed metadata) := by
  obtain ⟨hid, store, hstore, hnames, hmetadata⟩ := h
  rw [ofStatus?, field?_eq_some_of_field hstore]
  simp only [Option.bind_eq_bind, Option.bind_some, entries?, leaderId?_eq_some.2 ⟨hid, hnames⟩,
    hmetadata]

theorem exists_metadata (h : ofStatus? document = some d) :
    ∃ id metadata, Says document id metadata := by
  simp only [ofStatus?, Option.bind_eq_bind, Option.bind_eq_some_iff, entries?_eq_some] at h
  obtain ⟨_, hfield, store, rfl, id, hid, metadata, hmetadata, -⟩ := h
  obtain ⟨hid, hnames⟩ := leaderId?_eq_some.1 hid
  exact ⟨id, metadata, hid, store, by rw [Value.field, hfield]; rfl, hnames, hmetadata⟩

theorem ledBy?_append {before behind : List (String × Peer)} (hbefore : ∀ n ∈ before, n.1 ≠ id)
    (hbehind : ∀ n ∈ behind, n.1 ≠ id) :
    ledBy? id (before ++ (id, leader) :: behind) =
      some ⟨some leader, (before ++ behind).map Prod.snd⟩ := by
  have hfind : (before ++ (id, leader) :: behind).reverse.find? (fun n => n.1 = id) =
      some (id, leader) := by
    refine List.find?_eq_some_iff_append.2 ⟨by simp, behind.reverse, before.reverse, by simp, ?_⟩
    simpa using fun i q hn => hbehind (i, q) hn
  have hfilter : (before ++ (id, leader) :: behind).filter (fun n => n.1 ≠ id) =
      before ++ behind := by
    rw [List.filter_append, List.filter_cons_of_neg (by simp),
      List.filter_eq_self.2 (by simpa using fun i q hn => hbefore (i, q) hn),
      List.filter_eq_self.2 (by simpa using fun i q hn => hbehind (i, q) hn)]
  rw [ledBy?, hfind, hfilter]
  rfl

theorem ledBy?_eq_none {ns : List (String × Peer)} (h : ∀ n ∈ ns, n.1 ≠ id) :
    ledBy? id ns = none := by
  have hfind : ns.reverse.find? (fun n => n.1 = id) = none :=
    List.find?_eq_none.2 (by simpa using fun i q hn => h (i, q) hn)
  rw [ledBy?, hfind]
  rfl

theorem ne_of_mem_filterMap {es : Dict Value} (h : id ∉ es.map Prod.fst) :
    ∀ n ∈ es.filterMap asListed?, n.1 ≠ id := by
  rintro ⟨i, p⟩ hn rfl
  obtain ⟨e, hmem, he⟩ := List.mem_filterMap.1 hn
  exact h (List.mem_map.2 ⟨e, hmem, (asListed?_eq_some.1 he).1.symm⟩)

theorem notMem_of_nodup_append {before behind : Dict Value}
    (h : ((before ++ (id, node) :: behind).map Prod.fst).Nodup) :
    id ∉ before.map Prod.fst ∧ id ∉ behind.map Prod.fst := by
  rw [List.map_append, List.map_cons] at h
  exact ⟨fun hid => List.disjoint_of_nodup_append h hid List.mem_cons_self,
    (List.nodup_cons.1 h.of_append_right).1⟩

/-- The peer under an identifier, if the node has an address. -/
def peerOf? (e : String × Value) : Option Peer := (asListed? e).map Prod.snd

theorem peerOf?_eq_some {e : String × Value} : peerOf? e = some p ↔ HasAddress e.2 p := by
  simp only [peerOf?, Option.map_eq_some_iff, Prod.exists, asListed?_eq_some]
  constructor
  · rintro ⟨i, q, ⟨-, h⟩, rfl⟩
    exact h
  · intro h
    exact ⟨e.1, p, ⟨rfl, h⟩, rfl⟩

/-- The node that the leader is named by leads, and all others with an address follow. -/
theorem ofStatus?_of_entry {before behind : Dict Value}
    (htells : Says document id (before ++ (id, node) :: behind))
    (hkeys : ((before ++ (id, node) :: behind).map Prod.fst).Nodup)
    (haddress : HasAddress node leader) :
    ofStatus? document = some ⟨some leader, (before ++ behind).filterMap peerOf?⟩ := by
  obtain ⟨hbefore, hbehind⟩ := notMem_of_nodup_append hkeys
  have hentry : asListed? (id, node) = some (id, leader) := asListed?_eq_some.2 ⟨rfl, haddress⟩
  rw [ofStatus?_eq_of_metadata htells, listed_eq, List.filterMap_append,
    List.filterMap_cons_some hentry,
    ledBy?_append (ne_of_mem_filterMap hbefore) (ne_of_mem_filterMap hbehind),
    ← List.filterMap_append, List.map_filterMap]
  rfl

theorem hasDistinctKeys_of_field (key : String) (hv : v.HasDistinctKeys) :
    (v.field key).HasDistinctKeys := by
  cases v with
  | dict es =>
    obtain ⟨-, hes⟩ := hv
    induction es with
    | nil => exact trivial
    | cons e es ih =>
      obtain ⟨k, w⟩ := e
      obtain ⟨hw, hes⟩ := hes
      by_cases hk : key = k
      · subst hk
        simpa [Value.field, Value.field?, Dict.get?] using hw
      · have hfield : (Value.dict ((k, w) :: es)).field key = (Value.dict es).field key := by
          simp [Value.field, Value.field?, Dict.get?, List.lookup_cons, beq_eq_false_iff_ne.2 hk]
        rw [hfield]
        exact ih hes
  | _ => exact trivial

theorem Says.nodup (h : Says document id metadata) (hkeys : document.HasDistinctKeys) :
    (metadata.map Prod.fst).Nodup := by
  obtain ⟨-, store, hstore, -, hmetadata⟩ := h
  have hdistinct := hasDistinctKeys_of_field "metadata" (hasDistinctKeys_of_field "store" hkeys)
  rw [hstore, hmetadata] at hdistinct
  exact hdistinct.1

theorem isSome_ofStatus?_iff (hkeys : document.HasDistinctKeys) :
    (ofStatus? document).isSome ↔
      ∃ id metadata node p, Says document id metadata ∧ (id, node) ∈ metadata ∧
        HasAddress node p := by
  constructor
  · intro hsome
    obtain ⟨d, h⟩ := Option.isSome_iff_exists.1 hsome
    obtain ⟨id, metadata, htells⟩ := exists_metadata h
    by_contra hnone
    rw [ofStatus?_eq_of_metadata htells, listed_eq, ledBy?_eq_none] at h
    · cases h
    · rintro ⟨i, p⟩ hn rfl
      obtain ⟨e, hmem, he⟩ := List.mem_filterMap.1 hn
      obtain ⟨rfl, haddress⟩ := asListed?_eq_some.1 he
      exact hnone ⟨e.1, metadata, e.2, p, htells, hmem, haddress⟩
  · rintro ⟨id, metadata, node, p, htells, hmem, haddress⟩
    obtain ⟨before, behind, rfl⟩ := List.append_of_mem hmem
    rw [ofStatus?_of_entry htells (htells.nodup hkeys) haddress]
    rfl

theorem ledByNamed_of_ofStatus? (hkeys : document.HasDistinctKeys)
    (h : ofStatus? document = some d) : LedByNamed document d := by
  obtain ⟨id, metadata, node, leader, htells, hmem, haddress⟩ :=
    (isSome_ofStatus?_iff hkeys).1 (by rw [h]; rfl)
  obtain ⟨before, behind, rfl⟩ := List.append_of_mem hmem
  rw [ofStatus?_of_entry htells (htells.nodup hkeys) haddress, Option.some.injEq] at h
  subst h
  exact ⟨id, before, node, behind, leader, htells, haddress, rfl,
    lists_filterMap (fun _ _ => peerOf?_eq_some) _⟩

/-- A node without an address makes no difference to what a status document tells. -/
theorem ofStatus?_of_unaddressed {document' : Value} {before behind : Dict Value}
    {e : String × Value} (htells : Says document id (before ++ e :: behind))
    (htells' : Says document' id (before ++ behind)) (he : ∀ p, ¬ HasAddress e.2 p) :
    ofStatus? document = ofStatus? document' := by
  have hnone : asListed? e = none := by
    refine Option.eq_none_iff_forall_ne_some.2 fun ⟨i, p⟩ h => ?_
    exact he p (asListed?_eq_some.1 h).2
  rw [ofStatus?_eq_of_metadata htells, ofStatus?_eq_of_metadata htells', listed_eq, listed_eq,
    List.filterMap_append, List.filterMap_append, List.filterMap_cons_none hnone]

/-! ### Directories -/

/-- A document gives a directory exactly if it tells of a leader, and then the directory holds the
leader and all other nodes that count, in the order of the document. The leader comes first among
the peers of the directory, and no peer comes twice. Nodes that do not count make no difference. -/
theorem directory_of_document (document : Value) (hkeys : document.HasDistinctKeys) :
    (((ofNodes? document).isSome ↔ ∃ n ∈ nodes document, Claims n ∧ ∃ p, Counts n p) ∧
      (∀ d, ofNodes? document = some d → LedByFirst (nodes document) d) ∧
      ∀ document' before node behind, nodes document = before ++ node :: behind →
        nodes document' = before ++ behind → (∀ p, ¬ Counts node p) →
        ofNodes? document = ofNodes? document') ∧
    (((ofStatus? document).isSome ↔ ∃ id metadata node p, Says document id metadata ∧
        (id, node) ∈ metadata ∧ HasAddress node p) ∧
      (∀ d, ofStatus? document = some d → LedByNamed document d) ∧
      ∀ document' id before e behind, Says document id (before ++ e :: behind) →
        Says document' id (before ++ behind) → (∀ p, ¬ HasAddress e.2 p) →
        ofStatus? document = ofStatus? document') ∧
    ∀ d, ofNodes? document = some d ∨ ofStatus? document = some d →
      ∃ leader, d.leader = some leader ∧ d.peers.head? = some leader ∧ d.peers.Nodup ∧
        ∀ p, p ∈ d.peers ↔ p = leader ∨ p ∈ d.followers := by
  refine ⟨⟨isSome_ofNodes?_iff, fun d => ledByFirst_of_ofNodes?, ?_⟩,
    ⟨isSome_ofStatus?_iff hkeys, fun d => ledByNamed_of_ofStatus? hkeys, ?_⟩, fun d hd => ?_⟩
  · intro document' before node behind hnodes hnodes' hnode
    exact ofNodes?_of_uncounted hnodes hnodes' hnode
  · intro document' id before e behind htells htells' he
    exact ofStatus?_of_unaddressed htells htells' he
  · obtain ⟨leader, hleader⟩ : ∃ leader, d.leader = some leader := by
      obtain h | h := hd
      · exact exists_leader_of_ledByFirst? h
      · exact exists_leader_of_ofStatus? h
    refine ⟨leader, hleader, Directory.head?_peers hleader, Directory.nodup_peers d, fun p => ?_⟩
    rw [Directory.mem_peers, hleader, Option.some.injEq, eq_comm]

/-- A document that can be taken for either kind. Of its nodes one cannot be reached, one is no
object, two claim to lead and two have the same address; its leader is named by a text, and one
other entry has no usable address. -/
def twofold : Value :=
  .dict [
    ("nodes", .list [
      .dict [("api_addr", .text "n1:4001"), ("leader", .bool true), ("reachable", .bool false)],
      .dict [("api_addr", .text "http://n2")], .int 3,
      .dict [("api_addr", .text "[::1]:4003"), ("leader", .bool true)],
      .dict [("api_addr", .text "n4"), ("leader", .bool true)],
      .dict [("api_addr", .text "n2:80")]]),
    ("store", .dict [("leader", .text "b"), ("metadata", .dict [
      ("a", .dict [("api_addr", .text "n1:4001")]),
      ("b", .dict [("api_addr", .text "n2:4001")]),
      ("c", .dict [("api_addr", .text "n3:0")])])])]

theorem directory_of_document_twofold :
    twofold.HasDistinctKeys ∧
      ofNodes? twofold =
        some ⟨some ⟨"::1", "4003"⟩, [⟨"n2", "80"⟩, ⟨"n4", "4001"⟩, ⟨"n2", "80"⟩]⟩ ∧
      LedByFirst (nodes twofold)
        ⟨some ⟨"::1", "4003"⟩, [⟨"n2", "80"⟩, ⟨"n4", "4001"⟩, ⟨"n2", "80"⟩]⟩ ∧
      ofStatus? twofold = some ⟨some ⟨"n2", "4001"⟩, [⟨"n1", "4001"⟩]⟩ ∧
      LedByNamed twofold ⟨some ⟨"n2", "4001"⟩, [⟨"n1", "4001"⟩]⟩ := by
  have hkeys : twofold.HasDistinctKeys := by
    simp [twofold, Value.HasDistinctKeys, Value.HaveDistinctKeys, Value.EntriesHaveDistinctKeys]
  have hnodes : ofNodes? twofold =
      some ⟨some ⟨"::1", "4003"⟩, [⟨"n2", "80"⟩, ⟨"n4", "4001"⟩, ⟨"n2", "80"⟩]⟩ := by
    decide +kernel
  have hstatus : ofStatus? twofold = some ⟨some ⟨"n2", "4001"⟩, [⟨"n1", "4001"⟩]⟩ := by
    decide +kernel
  obtain ⟨⟨-, hfirst, -⟩, ⟨-, hnamed, -⟩, -⟩ := directory_of_document twofold hkeys
  exact ⟨hkeys, hnodes, hfirst _ hnodes, hstatus, hnamed _ hstatus⟩

end Topology

end SqlCluster
