import Mathlib.Data.List.Induction
import SqlCluster.Dict

/-!
Look-ups in dictionaries. The dictionary that entries lead to has each key once, where it first came
(`Dict.keys_ofEntries`), with the value that came last (`Dict.get?_ofEntries`); entries with
distinct keys are that dictionary already (`Dict.ofEntries_eq_self`).
-/

namespace SqlCluster.Dict

variable {α β : Type}

/-! ### Look-ups -/

theorem get?_map (d : Dict α) (f : String × α → β) (key : String) :
    get? (d.map fun e => (e.1, f e)) key = (get? d key).map fun a => f (key, a) := by
  induction d with
  | nil => rfl
  | cons e d ih =>
    rw [get?, get?] at ih ⊢
    rw [List.map_cons, List.lookup_cons, List.lookup_cons, ih]
    by_cases h : key = e.1
    · subst h
      simp
    · simp [beq_eq_false_iff_ne.2 h]

theorem get?_eq_none {d : Dict α} {key : String} (h : key ∉ d.map Prod.fst) : get? d key = none :=
  List.lookup_eq_none_iff.2 fun e he =>
    bne_iff_ne.2 fun hkey => h (List.mem_map.2 ⟨e, he, hkey.symm⟩)

theorem get?_append {before behind : Dict α} {key : String} {a : α}
    (hbefore : key ∉ before.map Prod.fst) : get? (before ++ (key, a) :: behind) key = some a := by
  have hnone : List.lookup key before = none := get?_eq_none hbefore
  rw [get?, List.lookup_append, hnone, Option.none_or, List.lookup_cons_self]

/-! ### Putting a value under a key -/

theorem put_eq_append {d : Dict α} {key : String} (h : key ∉ d.map Prod.fst) (a : α) :
    put d key a = d ++ [(key, a)] := by
  induction d with
  | nil => rfl
  | cons e d ih =>
    obtain ⟨k, b⟩ := e
    simp only [List.map_cons, List.mem_cons, not_or] at h
    rw [put, if_neg (Ne.symm h.1), ih h.2]
    rfl

theorem mem_of_mem_put {d : Dict α} {key : String} {a : α} {e : String × α}
    (h : e ∈ put d key a) : e ∈ d ∨ e = (key, a) := by
  induction d with
  | nil => exact .inr (List.mem_singleton.1 h)
  | cons e' d ih =>
    rw [put] at h
    split at h
    next hkey =>
      obtain rfl | h := List.mem_cons.1 h
      · exact .inr (hkey ▸ rfl)
      · exact .inl (List.mem_cons_of_mem _ h)
    next =>
      obtain rfl | h := List.mem_cons.1 h
      · exact .inl List.mem_cons_self
      · exact (ih h).imp_left (List.mem_cons_of_mem _)

theorem keys_put_of_mem {d : Dict α} {key : String} (h : key ∈ d.keys) (a : α) :
    (put d key a).keys = d.keys := by
  induction d with
  | nil => cases h
  | cons e d ih =>
    obtain ⟨k, b⟩ := e
    rw [put]
    split
    · rfl
    next hne =>
      have hmem : key ∈ keys d := (List.mem_cons.1 h).resolve_left (Ne.symm hne)
      exact congrArg (k :: ·) (ih hmem)

theorem get?_put_self (d : Dict α) (key : String) (a : α) : get? (put d key a) key = some a := by
  induction d with
  | nil => exact List.lookup_cons_self
  | cons e d ih =>
    obtain ⟨k, b⟩ := e
    rw [put]
    split
    next h => rw [h, get?, List.lookup_cons_self]
    next h => rwa [get?, List.lookup_cons, beq_eq_false_iff_ne.2 (Ne.symm h)]

theorem get?_put_of_ne (d : Dict α) {key key' : String} (h : key' ≠ key) (a : α) :
    get? (put d key a) key' = get? d key' := by
  induction d with
  | nil => rw [put, get?, List.lookup_cons, beq_eq_false_iff_ne.2 h]; rfl
  | cons e d ih =>
    obtain ⟨k, b⟩ := e
    rw [put]
    split
    next hk =>
      subst hk
      rw [get?, get?, List.lookup_cons, List.lookup_cons, beq_eq_false_iff_ne.2 h]
    next =>
      rw [get?, get?, List.lookup_cons, List.lookup_cons]
      split
      · rfl
      · exact ih

/-! ### Entries one after the other -/

theorem ofEntries_concat (es : List (String × α)) (key : String) (a : α) :
    ofEntries (es ++ [(key, a)]) = put (ofEntries es) key a := by
  rw [ofEntries, List.foldl_append]
  rfl

/-- The induction is on the entries from the end, since each is put into what those before it lead
to. -/
theorem keys_ofEntries (es : List (String × α)) :
    (ofEntries es).keys = (es.map Prod.fst).eraseDups := by
  induction es using List.reverseRecOn with
  | nil => rfl
  | append_singleton es e ih =>
    obtain ⟨key, a⟩ := e
    rw [ofEntries_concat, List.map_append, List.eraseDups_append, ← ih]
    by_cases h : key ∈ (ofEntries es).keys
    · have hmem : key ∈ es.map Prod.fst := by rwa [ih, List.mem_eraseDups] at h
      rw [keys_put_of_mem h]
      simp [List.removeAll, hmem]
    · have hmem : key ∉ es.map Prod.fst := by rwa [ih, List.mem_eraseDups] at h
      rw [put_eq_append h]
      simp [keys, List.removeAll, hmem, List.eraseDups_cons]

/-- A key has the value of its last entry. -/
theorem get?_ofEntries (before : List (String × α)) {behind : List (String × α)} {key : String}
    (h : key ∉ behind.map Prod.fst) (a : α) :
    get? (ofEntries (before ++ (key, a) :: behind)) key = some a := by
  induction behind using List.reverseRecOn with
  | nil => rw [ofEntries_concat, get?_put_self]
  | append_singleton behind e ih =>
    rw [List.map_append, List.mem_append, not_or, List.map_singleton, List.mem_singleton] at h
    rw [← List.cons_append, ← List.append_assoc, ofEntries_concat, get?_put_of_ne _ h.2, ih h.1]

theorem ofEntries_eq_self {es : List (String × α)} (h : (es.map Prod.fst).Nodup) :
    ofEntries es = es := by
  induction es using List.reverseRecOn with
  | nil => rfl
  | append_singleton es e ih =>
    rw [List.map_append, List.map_singleton, List.nodup_append] at h
    obtain ⟨hes, -, hnew⟩ := h
    have hkey : e.1 ∉ es.map Prod.fst := fun hmem => hnew _ hmem _ (List.mem_singleton_self _) rfl
    rw [ofEntries_concat, ih hes, put_eq_append hkey]

end SqlCluster.Dict
