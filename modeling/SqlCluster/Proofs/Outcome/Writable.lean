import SqlCluster.Proofs.Json.Writable
import SqlCluster.Proofs.Outcome.Fields

/-!
Integers of tables. The rows of a table that is decoded from a response are parts of the document
that the response is, so no integer in them is too long to be written
(`Response.isWritable_of_decode`).
-/

namespace SqlCluster.Response

variable {op : Operation} {index : Nat} {item : Value} {items : List Value} {rs : List (List Value)}
  {t : Table} {os : List Outcome}

theorem isWritable_of_accepted {body : List UInt8} {v : Value} (h : accepted body = .ok v) :
    v.isWritable := by
  obtain ⟨w, hw, h⟩ := bind_eq_ok.1 h
  dsimp only at h
  split at h
  · cases h
  · cases h
    unfold envelope at hw
    split at hw
    · cases hw
    next hread =>
      cases hw
      exact Json.isWritable_of_read hread
    · cases hw

theorem isWritable_of_rows (h : rows item = .ok rs) (hitem : item.isWritable) :
    ∀ row ∈ rs, ∀ v ∈ row, v.isWritable := by
  rw [rows] at h
  split at h
  · cases h
    exact List.forall_mem_nil _
  · split at h
    next hread =>
      cases h
      have hvalues := Value.isWritable_field hitem "values"
      rw [(bind_items?_eq_some_iff fun _ _ => items?_eq_some).1 hread] at hvalues
      intro row hrow
      have hlist := Value.areWritable_iff.1 hvalues (.list row) (List.mem_map_of_mem hrow)
      exact Value.areWritable_iff.1 hlist
    · cases h

theorem isWritable_of_outcome (h : outcome op index item = .ok (.rows t))
    (hitem : item.isWritable) : ∀ row ∈ t.rows, ∀ v ∈ row, v.isWritable := by
  cases item with
  | dict entries =>
    rw [outcome] at h
    split at h
    · cases h
    · split at h
      · obtain ⟨t, ht, h⟩ := map_eq_ok.1 h
        cases h
        simp only [table, bind_eq_ok] at ht
        obtain ⟨_, -, _, -, rs, hrs, _, -, h⟩ := ht
        cases h
        exact isWritable_of_rows hrs hitem
      · simp only [change, bind_eq_ok] at h
        obtain ⟨_, -, _, -, _, -, h⟩ := h
        cases h
  | _ => cases h

theorem isWritable_of_outcomes (h : outcomes op index items = .ok os) (ht : .rows t ∈ os)
    (hitems : ∀ item ∈ items, item.isWritable) : ∀ row ∈ t.rows, ∀ v ∈ row, v.isWritable := by
  induction items generalizing index os with
  | nil =>
    cases h
    cases ht
  | cons item items ih =>
    obtain ⟨hitem, hitems⟩ := List.forall_mem_cons.1 hitems
    simp only [outcomes, bind_eq_ok] at h
    obtain ⟨o, ho, os, hos, h⟩ := h
    cases h
    obtain rfl | ht := List.mem_cons.1 ht
    · exact isWritable_of_outcome ho hitem
    · exact ih hos ht hitems

theorem isWritable_of_decode {body : List UInt8} {expected : Option Int}
    (h : decode body op expected = .ok os) (ht : .rows t ∈ os) :
    ∀ row ∈ t.rows, ∀ v ∈ row, v.isWritable := by
  rw [decode, bind_eq_ok] at h
  obtain ⟨v, hv, h⟩ := h
  split at h
  next items hresults =>
    have hitems : ∀ item ∈ items, item.isWritable := by
      have hfield := Value.isWritable_field (isWritable_of_accepted hv) "results"
      rw [hresults] at hfield
      exact Value.areWritable_iff.1 hfield
    split at h
    · split at h
      · cases h
      · exact isWritable_of_outcomes h ht hitems
    · exact isWritable_of_outcomes h ht hitems
  · cases h

end SqlCluster.Response
