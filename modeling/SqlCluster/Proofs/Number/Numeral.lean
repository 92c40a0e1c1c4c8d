import Mathlib.Algebra.Group.Nat.Defs
import SqlCluster.Number.Numeral

/-!
Reading numbers back. Digits are read as the number that they denote, so a number is read from its
decimal form, if that has no more digits than may be read. The decimal form of a number other than
zero does not begin with a zero (`leads_toDigits`).
-/

namespace SqlCluster.Numeral

open Text

variable {s : List Char} {c : Char} {n : Int}

theorem plain_of_digits (h : ∀ c ∈ s, c.isDigit) : plain s = s := by
  have hplain : s.map plainChar = s := by
    refine (List.map_congr_left fun c hc => ?_).trans s.map_id
    have := toNat_of_isDigit (h c hc)
    rw [plainChar, if_pos (by omega), id]
  rw [plain, hplain]
  refine trim_eq_self fun c hc => ?_
  have := toNat_of_isDigit (h c hc)
  simp only [isAsciiBlank, Bool.or_eq_false_iff, Bool.and_eq_false_iff, decide_eq_false_iff_not,
    beq_eq_false_iff_ne]
  omega

theorem cutSign_of_digits (h : ∀ c ∈ s, c.isDigit) : cutSign s = (false, s) := by
  unfold cutSign
  split
  · exact absurd (h '-' (by simp)) (by decide)
  · exact absurd (h '+' (by simp)) (by decide)
  · rfl

theorem withoutUnderscores?_of_digits {last : Option Char} (hlast : last ≠ some '_')
    (h : ∀ c ∈ s, c.isDigit) : withoutUnderscores? last s = some s := by
  induction s generalizing last with
  | nil => simp [withoutUnderscores?, hlast]
  | cons c s ih =>
    simp only [List.forall_mem_cons] at h
    have hc : c ≠ '_' := by
      rintro rfl
      exact absurd h.1 (by decide)
    have hrest : withoutUnderscores? (some c) s = some s := ih (by simpa using hc) h.2
    simp [withoutUnderscores?, hc, hlast, hrest]

theorem readInt?_eq_some : readInt? s = some n ↔ ∃ digits,
    withoutUnderscores? none (cutSign (plain s)).2 = some digits ∧ digits ≠ [] ∧
      (∀ c ∈ digits, c.isDigit) ∧ digits.length ≤ digitLimit ∧
        n = Double.signed (cutSign (plain s)).1 (digitsValue digits) := by
  rw [readInt?]
  generalize cutSign (plain s) = cut
  simp only [Option.bind_eq_bind, Option.bind_eq_some_iff, Option.ite_none_left_eq_some,
    Option.some.injEq, Bool.or_eq_true, Bool.not_eq_true', not_or, Bool.not_eq_false,
    List.isEmpty_iff, List.all_eq_true, decide_eq_true_eq, Nat.not_lt, and_assoc, @eq_comm Int n]

/-- Digits are read as the number that they denote. -/
theorem readInt?_of_digits (h : ∀ c ∈ s, c.isDigit) (hne : s ≠ [])
    (hlen : s.length ≤ digitLimit) : readInt? s = some (digitsValue s : Int) := by
  rw [readInt?_eq_some, plain_of_digits h, cutSign_of_digits h]
  exact ⟨s, withoutUnderscores?_of_digits nofun h, hne, h, hlen, rfl⟩

/-- Digits are read unless there are too many of them. -/
theorem readInt?_digits (h : ∀ c ∈ s, c.isDigit) (hne : s ≠ []) :
    readInt? s = if digitLimit < s.length then none else some (digitsValue s : Int) := by
  split
  next hlong =>
    refine Option.eq_none_iff_forall_ne_some.2 fun n hn => ?_
    obtain ⟨digits, hdigits, -, -, hshort, -⟩ := readInt?_eq_some.1 hn
    have hread : withoutUnderscores? none s = some s := withoutUnderscores?_of_digits nofun h
    rw [plain_of_digits h, cutSign_of_digits h, hread] at hdigits
    cases hdigits
    exact Nat.not_lt.2 hshort hlong
  next hshort => exact readInt?_of_digits h hne (Nat.not_lt.1 hshort)

theorem digitsValue_eq_ofDigitChars (s : List Char) :
    digitsValue s = Nat.ofDigitChars 10 s 0 := by
  rw [digitsValue, ofDigits, List.foldl_map, Nat.ofDigitChars_eq_foldl]
  congr 1
  funext n c
  rw [Nat.mul_comm]
  rfl

theorem isWritable_iff {n : Nat} :
    isWritable n ↔ (Nat.toDigits 10 n).length ≤ digitLimit := by
  rw [isWritable, Int.natAbs_natCast, decide_eq_true_iff]
  have hpos : 0 < digitLimit := by decide
  -- the power is too large to be evaluated
  generalize digitLimit = k at hpos
  exact (Nat.length_toDigits_le_iff (by decide) hpos).symm

/-- A number that is short enough to be written is read from its decimal form. -/
theorem readInt?_repr {n : Nat} (h : isWritable n) :
    readInt? n.repr.toList = some (n : Int) := by
  have hdigits : ∀ c ∈ Nat.toDigits 10 n, c.isDigit := fun c hc =>
    Nat.isDigit_of_mem_toDigits (b := 10) (by decide) (by decide) hc
  rw [Nat.toList_repr, readInt?_of_digits hdigits Nat.toDigits_ne_nil (isWritable_iff.1 h),
    digitsValue_eq_ofDigitChars, Nat.ofDigitChars_ten_toDigits]

/-! ### Digits and their value -/

theorem digitsValue_concat (s : List Char) (c : Char) :
    digitsValue (s ++ [c]) = digitsValue s * 10 + (c.toNat - 48) := by
  simp [digitsValue, ofDigits]

theorem digitsValue_append (s t : List Char) :
    digitsValue (s ++ t) = digitsValue s * 10 ^ t.length + digitsValue t := by
  induction t generalizing s with
  | nil => simp [digitsValue, ofDigits]
  | cons c t ih =>
    rw [List.append_cons, ih (s ++ [c]), digitsValue_concat, ← List.singleton_append, ih [c],
      List.length_append, Nat.pow_add, Nat.add_mul, Nat.mul_assoc, Nat.add_assoc]
    simp [digitsValue, ofDigits]

theorem digitsValue_cons (c : Char) (s : List Char) :
    digitsValue (c :: s) = (c.toNat - 48) * 10 ^ s.length + digitsValue s := by
  rw [← List.singleton_append, digitsValue_append]
  simp [digitsValue, ofDigits]

theorem digitsValue_lt (h : ∀ c ∈ s, c.isDigit) : digitsValue s < 10 ^ s.length := by
  induction s with
  | nil => decide
  | cons c s ih =>
    obtain ⟨hc, hs⟩ := List.forall_mem_cons.1 h
    have hbound := toNat_of_isDigit hc
    have hrest := ih hs
    rw [digitsValue_cons, List.length_cons, Nat.pow_succ]
    calc (c.toNat - 48) * 10 ^ s.length + digitsValue s
        < 9 * 10 ^ s.length + 10 ^ s.length :=
          Nat.add_lt_add_of_le_of_lt (Nat.mul_le_mul_right _ (by omega)) hrest
      _ = 10 ^ s.length * 10 := by omega

theorem digitsValue_zeros (k : Nat) : digitsValue (List.replicate k '0') = 0 := by
  induction k with
  | zero => rfl
  | succ k ih => rw [List.replicate_succ', digitsValue_concat, ih]; rfl

theorem digitsValue_toDigits (n : Nat) : digitsValue (Nat.toDigits 10 n) = n := by
  rw [digitsValue_eq_ofDigitChars, Nat.ofDigitChars_ten_toDigits]

theorem isDigit_digitChar {d : Nat} (h : d < 10) : (Nat.digitChar d).isDigit := by
  rw [Nat.isDigit_digitChar]
  exact decide_eq_true h

theorem digitChar_of_isDigit (h : c.isDigit) : Nat.digitChar (c.toNat - 48) = c := by
  have hdigits : ∀ n < 10, Nat.digitChar n = Char.ofNat (n + 48) := by decide
  have hc := toNat_of_isDigit h
  rw [hdigits _ (by omega), Nat.sub_add_cancel hc.1, Char.ofNat_toNat]

theorem isDigit_of_mem_toDigits {n : Nat} : ∀ c ∈ Nat.toDigits 10 n, c.isDigit := by
  intro c hc
  exact Nat.isDigit_of_mem_toDigits (b := 10) (by decide) (by decide) hc

theorem isDigit_of_mem_zeros {k : Nat} : ∀ c ∈ List.replicate k '0', c.isDigit := by
  intro c hc
  rw [List.eq_of_mem_replicate hc]
  rfl

/-- Digits that begin with another one than zero. -/
structure Leads (s : List Char) : Prop where
  digits : ∀ c ∈ s, c.isDigit
  nonzero : s.head?.any (· ≠ '0')

theorem Leads.ne_nil (h : Leads s) : s ≠ [] := by
  rintro rfl
  exact absurd h.nonzero (by decide)

theorem Leads.append {t : List Char} (h : Leads s) (ht : ∀ c ∈ t, c.isDigit) :
    Leads (s ++ t) := by
  refine ⟨?_, ?_⟩
  · intro c hc
    rcases List.mem_append.1 hc with hc | hc
    · exact h.digits c hc
    · exact ht c hc
  · cases s with
    | nil => exact absurd rfl h.ne_nil
    | cons c s => exact h.nonzero

theorem Leads.take {k : Nat} (h : Leads s) (hk : 0 < k) : Leads (s.take k) := by
  refine ⟨fun c hc => h.digits c (List.mem_of_mem_take hc), ?_⟩
  rw [List.head?_take, if_neg (Nat.pos_iff_ne_zero.1 hk)]
  exact h.nonzero

theorem leads_toDigits {n : Nat} (hn : n ≠ 0) : Leads (Nat.toDigits 10 n) := by
  induction n using Nat.strongRecOn with
  | ind n ih =>
    by_cases hlt : n < 10
    · have hdigit : ∀ d < 10, d ≠ 0 → [Nat.digitChar d].head?.any (· ≠ '0') := by decide
      refine ⟨isDigit_of_mem_toDigits, ?_⟩
      rw [Nat.toDigits_of_lt_base hlt]
      exact hdigit n hlt hn
    · rw [Nat.toDigits_of_base_le (by decide) (by omega)]
      refine (ih (n / 10) (by omega) (by omega)).append ?_
      intro c hc
      rw [List.mem_singleton.1 hc]
      exact isDigit_digitChar (Nat.mod_lt n (by decide))

/-! ### The digits of a value -/

theorem toDigits_of_isDigit (h : c.isDigit) : Nat.toDigits 10 (c.toNat - 48) = [c] := by
  have hc := toNat_of_isDigit h
  rw [Nat.toDigits_of_lt_base (by omega), digitChar_of_isDigit h]

theorem toDigits_append {n : Nat} (hn : 0 < n) (h : ∀ c ∈ s, c.isDigit) :
    Nat.toDigits 10 n ++ s = Nat.toDigits 10 (n * 10 ^ s.length + digitsValue s) := by
  induction s generalizing n with
  | nil => simp [digitsValue, ofDigits]
  | cons c s ih =>
    simp only [List.forall_mem_cons] at h
    have hc := toNat_of_isDigit h.1
    have hvalue : n * 10 ^ (c :: s).length + digitsValue (c :: s) =
        (10 * n + (c.toNat - 48)) * 10 ^ s.length + digitsValue s := by
      rw [digitsValue_cons, List.length_cons, Nat.pow_succ', Nat.add_mul, Nat.add_assoc,
        Nat.mul_left_comm, Nat.mul_assoc]
    rw [List.append_cons, ← toDigits_of_isDigit h.1,
      Nat.toDigits_append_toDigits (by decide) hn (by omega), ih (by omega) h.2, hvalue]

/-- Digits that begin with another one than zero are those of the number that they denote. -/
theorem Leads.toDigits_digitsValue (h : Leads s) : Nat.toDigits 10 (digitsValue s) = s := by
  cases s with
  | nil => exact absurd rfl h.ne_nil
  | cons c s =>
    have hdigits := h.digits
    simp only [List.forall_mem_cons] at hdigits
    have hc := toNat_of_isDigit hdigits.1
    have hpos : 0 < c.toNat - 48 := by
      have hzero : c ≠ '0' := by simpa using h.nonzero
      have : c.toNat ≠ 48 := fun hc => hzero (Char.toNat_inj.1 hc)
      omega
    rw [digitsValue_cons, ← toDigits_append hpos hdigits.2, toDigits_of_isDigit hdigits.1,
      List.singleton_append]

theorem Leads.digitsValue_ne_zero (h : Leads s) : digitsValue s ≠ 0 := by
  intro hzero
  have hs : s = ['0'] := by
    rw [← h.toDigits_digitsValue, hzero]
    rfl
  have hhead := h.nonzero
  rw [hs] at hhead
  exact absurd hhead (by decide)

/-- Digits are those of the number that they denote exactly if they begin with another one than
zero, unless that number is zero. -/
theorem leads_iff (h : digitsValue s ≠ 0) : Leads s ↔ Nat.toDigits 10 (digitsValue s) = s := by
  constructor
  · exact Leads.toDigits_digitsValue
  · intro hs
    rw [← hs]
    exact leads_toDigits h

end SqlCluster.Numeral
