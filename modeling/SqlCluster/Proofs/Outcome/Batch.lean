import Mathlib.Data.List.Pairwise
import SqlCluster.Outcome.Response
import SqlCluster.Proofs.Result

/-!
Outcomes of a batch. A response that is decoded has one outcome for each statement of its batch, in
their order, and every failure names the place where it stands (`Response.isBatch_of_decode`). So
the failures that are raised for a batch are all that it has, by increasing index
(`Outcome.IsBatch.raises`).
-/

namespace SqlCluster

namespace Outcome

/-- What may become of the statement at an index: it fails at that index, or it comes to what its
operation allows. -/
def Fits (op : Operation) (index : Nat) : Outcome → Prop
  | failed e => e.index = index
  | written .. => op ≠ .query
  | rows _ => op ≠ .write

/-- The outcomes of a batch of so many statements: one for each, in their order. -/
structure IsBatch (op : Operation) (count : Nat) (os : List Outcome) : Prop where
  length : os.length = count
  fits : ∀ (i : Nat) (hi : i < os.length), os[i].Fits op i

/-- What comes of outcomes where failures are raised: the outcomes if no statement failed, or else
all failures, by increasing index, with all outcomes. -/
inductive Raises (os : List Outcome) : Except StatementErrors (List Outcome) → Prop
  | kept (unfailed : ∀ e, failed e ∉ os) : Raises os (.ok os)
  | raised {es : List StatementError} (some : es ≠ []) (all : ∀ e, e ∈ es ↔ failed e ∈ os)
      (increasing : (es.map (·.index)).Pairwise (· < ·)) : Raises os (.error ⟨es, os⟩)

variable {op : Operation} {count : Nat} {o : Outcome} {os : List Outcome} {e : StatementError}

theorem error?_eq_some : o.error? = some e ↔ o = failed e := by
  cases o <;> simp [error?]

theorem mem_errors : e ∈ errors os ↔ failed e ∈ os := by
  simp [errors, error?_eq_some]

/-- Failures stand at increasing places, which are their indices. -/
theorem IsBatch.increasing (h : IsBatch op count os) :
    ((errors os).map (·.index)).Pairwise (· < ·) := by
  -- picking out the failures keeps their order, so it is enough to compare two places
  rw [errors, List.pairwise_map, List.pairwise_filterMap, List.pairwise_iff_getElem]
  intro i j hi hj hij e he e' he'
  have hfits := h.fits i hi
  have hfits' := h.fits j hj
  rw [error?_eq_some.1 he] at hfits
  rw [error?_eq_some.1 he'] at hfits'
  have hindex : e.index = i := hfits
  have hindex' : e'.index = j := hfits'
  omega

theorem IsBatch.raises (h : IsBatch op count os) : Raises os (raiseErrors os) := by
  rw [raiseErrors]
  split
  next hnone =>
    rw [List.isEmpty_iff] at hnone
    refine .kept fun e he => ?_
    rw [← mem_errors, hnone] at he
    cases he
  next hsome =>
    rw [List.isEmpty_iff] at hsome
    exact .raised hsome (fun _ => mem_errors) h.increasing

end Outcome

namespace Response

variable {op : Operation} {index : Nat} {item : Value} {items : List Value} {o : Outcome}
  {os : List Outcome}

theorem fits_of_change (h : change item = .ok o) (hop : op ≠ .query) : o.Fits op index := by
  simp only [change, bind_eq_ok] at h
  obtain ⟨_, _, _, _, _, _, h⟩ := h
  cases h
  exact hop

theorem fits_of_outcome (h : outcome op index item = .ok o) : o.Fits op index := by
  cases item with
  | dict entries =>
    rw [outcome] at h
    split at h
    · cases h
      exact rfl
    · split at h
      next htable =>
        obtain ⟨t, _, rfl⟩ := map_eq_ok.1 h
        rintro rfl
        cases htable
      next htable =>
        refine fits_of_change h ?_
        rintro rfl
        exact htable rfl
  | _ => cases h

/-- The outcomes from an index on are those of the items in their order. The induction is on the
items. -/
theorem getElem_of_outcomes (h : outcomes op index items = .ok os) :
    os.length = items.length ∧ ∀ (i : Nat) (hi : i < os.length), os[i].Fits op (index + i) := by
  induction items generalizing index os with
  | nil =>
    cases h
    exact ⟨rfl, by simp⟩
  | cons item items ih =>
    simp only [outcomes, bind_eq_ok] at h
    obtain ⟨o, ho, os, hos, h⟩ := h
    cases h
    obtain ⟨hlength, hfits⟩ := ih hos
    refine ⟨by simp [hlength], fun i hi => ?_⟩
    cases i with
    | zero => exact fits_of_outcome ho
    | succ i =>
      have := hfits i (by simpa using hi)
      rwa [Nat.add_assoc, Nat.add_comm 1 i] at this

theorem isBatch_of_decode {body : List UInt8} {count : Nat}
    (h : decode body op (some (count : Int)) = .ok os) : Outcome.IsBatch op count os := by
  rw [decode, bind_eq_ok] at h
  obtain ⟨v, _, h⟩ := h
  split at h
  next items _ =>
    dsimp only at h
    split at h
    · cases h
    next hcount =>
      obtain ⟨hlength, hfits⟩ := getElem_of_outcomes h
      refine ⟨by omega, fun i hi => ?_⟩
      have := hfits i hi
      rwa [Nat.zero_add] at this
  · cases h

end Response

end SqlCluster
