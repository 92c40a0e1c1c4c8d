import Mathlib.Data.List.TakeWhile
import SqlCluster.Json.Reader
import SqlCluster.Proofs.Dict
import SqlCluster.Proofs.Number.Numeral
import SqlCluster.Proofs.Result

/-!
Integers of documents. No integer is read that has more digits than may be written, so there is none
in what a document is read as, however deep it may lie (`Json.isWritable_of_read`).
-/

namespace SqlCluster

/-! ### Digits -/

theorem Double.natAbs_signed (negative : Bool) (n : Nat) : (signed negative n).natAbs = n := by
  cases negative <;> simp [signed]

namespace Numeral

variable {s : List Char}

/-- Digits that are not too many denote an integer that is short enough to be written. -/
theorem isWritable_digitsValue (negative : Bool) (hdigits : ∀ c ∈ s, c.isDigit)
    (hlength : s.length ≤ digitLimit) : isWritable (Double.signed negative (digitsValue s)) := by
  rw [isWritable, Double.natAbs_signed, decide_eq_true_iff]
  -- the power is too large to be evaluated
  generalize digitLimit = k at hlength ⊢
  exact Nat.lt_of_lt_of_le (digitsValue_lt hdigits) (Nat.pow_le_pow_right (by decide) hlength)

end Numeral

/-! ### Values -/

namespace Value

theorem areWritable_iff {vs : List Value} : areWritable vs ↔ ∀ v ∈ vs, v.isWritable := by
  induction vs with
  | nil => simp [areWritable]
  | cons v vs ih => rw [areWritable, Bool.and_eq_true, ih, List.forall_mem_cons]

theorem entriesAreWritable_iff {es : List (String × Value)} :
    entriesAreWritable es ↔ ∀ e ∈ es, e.2.isWritable := by
  induction es with
  | nil => simp [entriesAreWritable]
  | cons e es ih => rw [entriesAreWritable, Bool.and_eq_true, ih, List.forall_mem_cons]

theorem isWritable_field {v : Value} (h : v.isWritable) (key : String) :
    (v.field key).isWritable := by
  rw [field]
  cases hfield : v.field? key with
  | none => rfl
  | some w =>
    cases v with
    | dict es =>
      obtain ⟨before, behind, rfl, -⟩ := List.lookup_eq_some_iff.1 hfield
      exact entriesAreWritable_iff.1 h (key, w) (by simp)
    | _ => cases hfield

end Value

/-! ### Documents -/

namespace Json

variable {s r : List Char} {v : Value}

theorem isDigit_of_mem_wholeDigits : ∀ c ∈ wholeDigits s, c.isDigit := by
  unfold wholeDigits
  split
  · exact List.forall_mem_singleton.2 rfl
  · exact fun c hc => List.mem_takeWhile_imp hc

theorem isWritable_of_readUnsigned {start : List Char} {negative : Bool}
    (h : readUnsigned start negative s = .ok (v, r)) : v.isWritable := by
  simp only [readUnsigned] at h
  split at h
  · cases h
  · split at h
    · split at h
      · cases h
      next hlength =>
        cases h
        exact Numeral.isWritable_digitsValue negative isDigit_of_mem_wholeDigits
          (Nat.le_of_not_lt hlength)
    · cases h
      rfl

theorem isWritable_of_readAtom (h : readAtom s = .ok (v, r)) : v.isWritable := by
  rw [readAtom] at h
  split at h
  next w v' hfind =>
    cases h
    have hword := List.mem_of_find?_eq_some hfind
    simp only [words, List.mem_cons, List.not_mem_nil, or_false, Prod.mk.injEq] at hword
    obtain ⟨-, rfl⟩ | ⟨-, rfl⟩ | ⟨-, rfl⟩ | ⟨-, rfl⟩ | ⟨-, rfl⟩ | ⟨-, rfl⟩ := hword <;> rfl
  next =>
    unfold readNumber at h
    split at h <;> exact isWritable_of_readUnsigned h

/-- Values, items and entries go together through the induction on the fuel of their readers. -/
theorem writable_of_reads (fuel : Nat) :
    (∀ {s r v}, readValue fuel s = .ok (v, r) → v.isWritable) ∧
    (∀ {s r vs}, readItems fuel s = .ok (vs, r) → Value.areWritable vs) ∧
    ∀ {s r before es}, Value.entriesAreWritable before → readEntries fuel before s = .ok (es, r) →
      Value.entriesAreWritable es := by
  induction fuel with
  | zero => exact ⟨nofun, nofun, nofun⟩
  | succ fuel ih =>
    obtain ⟨hvalue, hitems, hentries⟩ := ih
    refine ⟨fun {s r v} h => ?_, fun {s r vs} h => ?_, fun {s r before es} hbefore h => ?_⟩
    · rw [readValue] at h
      dsimp only at h
      split at h
      · obtain ⟨_, -, h⟩ := bind_eq_ok.1 h
        cases h
        rfl
      · split at h
        · cases h
          rfl
        · obtain ⟨_, hread, h⟩ := bind_eq_ok.1 h
          cases h
          exact hitems hread
      · split at h
        · cases h
          rfl
        · obtain ⟨_, hread, h⟩ := bind_eq_ok.1 h
          cases h
          exact hentries rfl hread
      · exact isWritable_of_readAtom h
    · rw [readItems] at h
      obtain ⟨_, hv, h⟩ := bind_eq_ok.1 h
      dsimp only at h
      split at h
      · cases h
        rw [Value.areWritable, hvalue hv]
        rfl
      · obtain ⟨_, hvs, h⟩ := bind_eq_ok.1 h
        cases h
        rw [Value.areWritable, hvalue hv, hitems hvs]
        rfl
      · cases h
    · unfold readEntries at h
      split at h
      · obtain ⟨⟨key, _⟩, -, h⟩ := bind_eq_ok.1 h
        dsimp only at h
        split at h
        · obtain ⟨⟨v, _⟩, hv, h⟩ := bind_eq_ok.1 h
          have hput : Value.entriesAreWritable (Dict.put before (String.ofList key) v) := by
            rw [Value.entriesAreWritable_iff] at hbefore ⊢
            intro e he
            obtain he | rfl := Dict.mem_of_mem_put he
            · exact hbefore e he
            · exact hvalue hv
          dsimp only at h
          split at h
          · cases h
            exact hput
          · exact hentries hput h
          · cases h
        · cases h
      · cases h

theorem isWritable_of_read {bytes : List UInt8} (h : read bytes = .ok v) : v.isWritable := by
  rw [read] at h
  split at h
  · cases h
  · split at h
    · cases h
    next hread =>
      cases h
      obtain ⟨_, hvalue, hread⟩ := bind_eq_ok.1 hread
      dsimp only at hread
      split at hread
      · cases hread
        exact (writable_of_reads _).1 hvalue
      · cases hread

end Json

end SqlCluster
