import SqlCluster.Json.Reader
import SqlCluster.Json.Writer
import SqlCluster.Text.Split
import SqlCluster.Proofs.Number.Shortest

/-!
Numbers of a document read back. An integer that may be written is read as itself, and a finite
double as itself, never the one as the other, where a comma, a closing bracket or nothing follows
(`readNumber_writeInt`, `readNumber_text`).
-/

namespace SqlCluster.Json

open Numeral

variable {s rest fraction : List Char} (start : List Char) (negative : Bool)

/-- Whether a text may stand right behind a value: nothing, a comma or a closing bracket. -/
def IsBoundary (rest : List Char) : Prop := ∀ c ∈ rest.head?, c = ',' ∨ c = ']' ∨ c = '}'

/-- Whether a text does not go on with a digit. -/
def EndsDigits (rest : List Char) : Prop := ∀ c ∈ rest.head?, c.isDigit = false

theorem IsBoundary.endsDigits (h : IsBoundary rest) : EndsDigits rest := by
  intro c hc
  rcases h c hc with rfl | rfl | rfl <;> decide

theorem takeWhile_isDigit (hs : ∀ c ∈ s, c.isDigit) (hrest : EndsDigits rest) :
    (s ++ rest).takeWhile Char.isDigit = s :=
  Text.takeWhile_append_eq hs hrest

theorem dropWhile_isDigit (hs : ∀ c ∈ s, c.isDigit) (hrest : EndsDigits rest) :
    (s ++ rest).dropWhile Char.isDigit = rest :=
  Text.dropWhile_append_eq hs hrest

/-! ### The parts of a number -/

theorem signed_natAbs (n : ℤ) : Double.signed (decide (n < 0)) n.natAbs = n := by
  by_cases h : n < 0
  · rw [decide_eq_true h, Double.signed, if_pos rfl]
    omega
  · rw [decide_eq_false h, Double.signed, if_neg (by decide)]
    omega

theorem wholeDigits_leads (hs : Leads s) (hrest : EndsDigits rest) :
    wholeDigits (s ++ rest) = s := by
  rw [wholeDigits]
  · exact takeWhile_isDigit hs.digits hrest
  · intro r hzero
    cases s with
    | nil => exact absurd rfl hs.ne_nil
    | cons c s =>
      cases hzero
      exact absurd hs.nonzero (by simp)

theorem cutFraction_point (hs : ∀ c ∈ s, c.isDigit) (hne : s ≠ []) (hrest : EndsDigits rest) :
    cutFraction ('.' :: (s ++ rest)) = (s, rest) := by
  rw [cutFraction, takeWhile_isDigit hs hrest, dropWhile_isDigit hs hrest]
  simp [hne]

theorem cutFraction_zero (hrest : EndsDigits rest) :
    cutFraction ('.' :: '0' :: rest) = (['0'], rest) :=
  cutFraction_point (s := ['0']) (List.forall_mem_singleton.2 rfl) (List.cons_ne_nil _ _) hrest

theorem cutFraction_of_head (h : rest.head? ≠ some '.') : cutFraction rest = ([], rest) := by
  rw [cutFraction]
  rintro r rfl
  exact h rfl

theorem cutExponent_of_isBoundary (h : IsBoundary rest) : cutExponent rest = (none, rest) := by
  cases rest with
  | nil => rfl
  | cons c rest =>
    rcases h c rfl with rfl | rfl | rfl <;> rfl

theorem cutExponent_exponentText (e : ℤ) (hrest : EndsDigits rest) :
    cutExponent (Double.exponentText e ++ rest) = (some e, rest) := by
  obtain ⟨k, hk⟩ : ∃ k, 2 - (Nat.toDigits 10 e.natAbs).length = k := ⟨_, rfl⟩
  obtain ⟨s, hs⟩ : ∃ s, List.replicate k '0' ++ Nat.toDigits 10 e.natAbs = s := ⟨_, rfl⟩
  have hdigits : ∀ c ∈ s, c.isDigit := by
    intro c hc
    rw [← hs, List.mem_append] at hc
    rcases hc with hc | hc
    · exact isDigit_of_mem_zeros c hc
    · exact isDigit_of_mem_toDigits c hc
  have hvalue : digitsValue s = e.natAbs := by
    rw [← hs, digitsValue_append, digitsValue_zeros, Nat.zero_mul, Nat.zero_add,
      digitsValue_toDigits]
  have hne : s ≠ [] := by
    rw [← hs]
    simp
  rw [Double.exponentText, hk, hs, List.cons_append, List.cons_append, cutExponent,
    if_pos (.inl rfl)]
  have hsign : cutSign ((if e < 0 then '-' else '+') :: (s ++ rest)) =
      (decide (e < 0), s ++ rest) := by
    split
    case isTrue h => rw [decide_eq_true h]; rfl
    case isFalse h => rw [decide_eq_false h]; rfl
  rw [hsign]
  dsimp only
  rw [takeWhile_isDigit hdigits hrest, dropWhile_isDigit hdigits hrest, hvalue,
    if_neg (by simpa using hne), signed_natAbs]

/-! ### Integers -/

theorem readUnsigned_toDigits {n : ℕ} (hn : isWritable n) (hrest : IsBoundary rest) :
    readUnsigned start negative (Nat.toDigits 10 n ++ rest) =
      .ok (.int (Double.signed negative n), rest) := by
  have hwhole : wholeDigits (Nat.toDigits 10 n ++ rest) = Nat.toDigits 10 n := by
    by_cases hzero : n = 0
    · rw [hzero]
      rfl
    · exact wholeDigits_leads (leads_toDigits hzero) hrest.endsDigits
  have hpoint : rest.head? ≠ some '.' := by
    intro h
    rcases hrest '.' h with h | h | h <;> exact absurd h (by decide)
  rw [readUnsigned, hwhole]
  dsimp only
  rw [if_neg (by simp), List.drop_left, cutFraction_of_head hpoint]
  dsimp only
  rw [cutExponent_of_isBoundary hrest]
  dsimp only
  rw [if_pos (by simp), if_neg (Nat.not_lt.2 (isWritable_iff.1 hn)), digitsValue_toDigits]

/-! ### Doubles -/

theorem decimalValue_eq_nearest (whole fraction : List Char) (e : ℤ) :
    decimalValue negative whole fraction e =
      Double.nearest negative (digitsValue (whole ++ fraction) * 10 ^ (e - fraction.length)) :=
  Double.ofDecimal_eq_nearest ..

theorem readUnsigned_float (whole : List Char) {t : List Char} {exponent : Option ℤ}
    (hwhole : wholeDigits (whole ++ s) = whole) (hne : whole ≠ [])
    (hfraction : cutFraction s = (fraction, t)) (hexponent : cutExponent t = (exponent, rest))
    (hfloat : fraction ≠ [] ∨ exponent ≠ none) :
    readUnsigned start negative (whole ++ s) =
      .ok (.float (decimalValue negative whole fraction (exponent.getD 0)), rest) := by
  have hnotInt : ¬(fraction.isEmpty ∧ exponent.isNone) := by
    simpa [imp_iff_not_or] using hfloat
  rw [readUnsigned, hwhole]
  dsimp only
  rw [if_neg (by simpa using hne), List.drop_left, hfraction]
  dsimp only
  rw [hexponent]
  dsimp only
  rw [if_neg hnotInt]

/-- Digits with the point before them. -/
theorem readUnsigned_small (hs : Leads s) (k : ℕ) (hrest : IsBoundary rest) :
    readUnsigned start negative ('0' :: '.' :: (List.replicate k '0' ++ s) ++ rest) =
      .ok (.float (Double.nearest negative (digitsValue s * 10 ^ (-(k : ℤ) - s.length))),
        rest) := by
  have hdigits : ∀ c ∈ List.replicate k '0' ++ s, c.isDigit := by
    intro c hc
    rcases List.mem_append.1 hc with hc | hc
    · exact isDigit_of_mem_zeros c hc
    · exact hs.digits c hc
  have hread := readUnsigned_float start negative ['0'] rfl (by decide)
    (cutFraction_point hdigits (by simp [hs.ne_nil]) hrest.endsDigits)
    (cutExponent_of_isBoundary hrest) (.inl (by simp [hs.ne_nil]))
  have hvalue : digitsValue (['0'] ++ (List.replicate k '0' ++ s)) = digitsValue s := by
    rw [← List.append_assoc, digitsValue_append, ← List.replicate_one, ← List.replicate_add,
      digitsValue_zeros, Nat.zero_mul, Nat.zero_add]
  have hexponent : (0 : ℤ) - ((List.replicate k '0' ++ s).length : ℕ) = -(k : ℤ) - s.length := by
    rw [List.length_append, List.length_replicate]
    omega
  rw [decimalValue_eq_nearest, hvalue, Option.getD_none, hexponent] at hread
  exact hread

/-- Digits with zeros behind them up to the point. -/
theorem readUnsigned_integral (hs : Leads s) (k : ℕ) (hrest : IsBoundary rest) :
    readUnsigned start negative (s ++ List.replicate k '0' ++ '.' :: '0' :: rest) =
      .ok (.float (Double.nearest negative (digitsValue s * 10 ^ (k : ℤ))), rest) := by
  have hwhole := hs.append (isDigit_of_mem_zeros (k := k))
  have hpoint : EndsDigits ('.' :: '0' :: rest) := by
    rintro c ⟨⟩
    rfl
  have hread := readUnsigned_float start negative _
    (wholeDigits_leads hwhole hpoint) hwhole.ne_nil
    (cutFraction_zero hrest.endsDigits)
    (cutExponent_of_isBoundary hrest) (.inl (by decide))
  have hvalue : digitsValue (s ++ List.replicate k '0' ++ ['0']) =
      digitsValue s * 10 ^ (k + 1) := by
    rw [List.append_assoc, ← List.replicate_succ', digitsValue_append, digitsValue_zeros,
      List.length_replicate, Nat.add_zero]
  have hscale : ((digitsValue s * 10 ^ (k + 1) : ℕ) : ℚ) * 10 ^ (-1 : ℤ) =
      digitsValue s * 10 ^ (k : ℤ) := by
    rw [Nat.cast_mul, Nat.cast_pow, Nat.cast_ofNat, pow_succ, zpow_natCast, zpow_neg_one]
    field_simp
  rw [decimalValue_eq_nearest, hvalue] at hread
  exact hread.trans (by rw [← hscale]; rfl)

/-- Digits with the point between them. -/
theorem readUnsigned_broken (hs : Leads s) {k : ℕ} (hk : 0 < k) (hlt : k < s.length)
    (hrest : IsBoundary rest) :
    readUnsigned start negative (s.take k ++ '.' :: (s.drop k ++ rest)) =
      .ok (.float (Double.nearest negative (digitsValue s * 10 ^ ((k : ℤ) - s.length))), rest) := by
  have hdigits : ∀ c ∈ s.drop k, c.isDigit := fun c hc => hs.digits c (List.mem_of_mem_drop hc)
  have hne : s.drop k ≠ [] := by
    rw [Ne, List.drop_eq_nil_iff]
    omega
  have hpoint : EndsDigits ('.' :: (s.drop k ++ rest)) := by
    rintro c ⟨⟩
    rfl
  have hread := readUnsigned_float start negative _
    (wholeDigits_leads (hs.take hk) hpoint) (hs.take hk).ne_nil
    (cutFraction_point hdigits hne hrest.endsDigits) (cutExponent_of_isBoundary hrest) (.inl hne)
  have hexponent : (0 : ℤ) - ((s.drop k).length : ℕ) = (k : ℤ) - s.length := by
    rw [List.length_drop]
    omega
  rw [decimalValue_eq_nearest, List.take_append_drop, Option.getD_none, hexponent] at hread
  exact hread

/-- Digits with the point behind the first of them and an exponent. -/
theorem readUnsigned_exponent (hs : Leads s) (e : ℤ) (hrest : IsBoundary rest) :
    readUnsigned start negative (s.take 1 ++
      (if (s.drop 1).isEmpty then [] else '.' :: s.drop 1) ++ Double.exponentText e ++ rest) =
      .ok (.float (Double.nearest negative (digitsValue s * 10 ^ (e + 1 - s.length))), rest) := by
  have hexponent := cutExponent_exponentText e hrest.endsDigits
  have hdigits : ∀ c ∈ s.drop 1, c.isDigit := fun c hc => hs.digits c (List.mem_of_mem_drop hc)
  have hmark : EndsDigits (Double.exponentText e ++ rest) := by
    rintro c ⟨⟩
    rfl
  have hwhole := hs.take Nat.one_pos
  obtain ⟨t, ht, hfraction, hends⟩ : ∃ t, (if (s.drop 1).isEmpty then [] else '.' :: s.drop 1) ++
      (Double.exponentText e ++ rest) = t ∧
      cutFraction t = (s.drop 1, Double.exponentText e ++ rest) ∧ EndsDigits t := by
    refine ⟨_, rfl, ?_⟩
    by_cases hempty : s.drop 1 = []
    · rw [hempty, if_pos List.isEmpty_nil]
      exact ⟨cutFraction_of_head (by simp [Double.exponentText]), hmark⟩
    · rw [if_neg (by simpa using hempty)]
      refine ⟨cutFraction_point hdigits hempty hmark, ?_⟩
      rintro c ⟨⟩
      rfl
  have hread := readUnsigned_float start negative _
    (wholeDigits_leads hwhole hends) hwhole.ne_nil hfraction hexponent (.inr (by simp))
  have hplace : e - ((s.drop 1).length : ℕ) = e + 1 - s.length := by
    have := List.length_pos_of_ne_nil hs.ne_nil
    rw [List.length_drop]
    omega
  rw [decimalValue_eq_nearest, List.take_append_drop, Option.getD_some, hplace, ← ht] at hread
  simpa only [List.append_assoc] using hread

/-- Laid out digits denote the same number, wherever the point stands. -/
theorem readUnsigned_layOut (hs : Leads s) (point : ℤ) (hrest : IsBoundary rest) :
    readUnsigned start negative (Double.layOut s point ++ rest) =
      .ok (.float (Double.nearest negative (digitsValue s * 10 ^ (point - s.length))), rest) := by
  rw [Double.layOut]
  split
  case isTrue hplain =>
    split
    case isTrue hsmall =>
      obtain ⟨k, hk⟩ : ∃ k : ℕ, point = -(k : ℤ) := ⟨(-point).toNat, by omega⟩
      subst hk
      rw [Int.neg_neg, Int.toNat_natCast]
      exact readUnsigned_small start negative hs k hrest
    case isFalse hlarge =>
      obtain ⟨k, rfl⟩ : ∃ k : ℕ, point = k := ⟨point.toNat, by omega⟩
      rw [Int.toNat_natCast]
      by_cases hlength : s.length ≤ k
      · have hread := readUnsigned_integral start negative hs (k - s.length) hrest
        rw [Nat.cast_sub hlength] at hread
        simpa [List.take_of_length_le hlength, List.drop_of_length_le hlength] using hread
      · have hread := readUnsigned_broken start negative hs (k := k) (by omega) (by omega) hrest
        have htake : (s.take k).length = k := by
          rw [List.length_take]
          omega
        have hdrop : s.drop k ≠ [] := by
          rw [Ne, List.drop_eq_nil_iff]
          exact hlength
        simpa [htake, hdrop] using hread
  case isFalse =>
    have hread := readUnsigned_exponent start negative hs (point - 1) hrest
    rw [Int.sub_add_cancel] at hread
    exact hread

/-! ### Written numbers -/

theorem readNumber_signed {v : Value} {r : List Char}
    (hread : ∀ start, readUnsigned start negative s = .ok (v, r)) :
    readNumber ((if negative then ['-'] else []) ++ s) = .ok (v, r) := by
  cases negative with
  | true => exact hread _
  | false =>
    rw [if_neg (by decide), List.nil_append, readNumber]
    · exact hread s
    · rintro t rfl
      exact absurd (hread []) (by simp [readUnsigned, wholeDigits, fail])

theorem readNumber_writeInt {n : ℤ} (hn : isWritable n) (hrest : IsBoundary rest) :
    readNumber (writeInt n ++ rest) = .ok (.int n, rest) := by
  have hn' : isWritable n.natAbs := by
    rw [isWritable, Int.natAbs_natCast]
    exact hn
  have hread := readNumber_signed (decide (n < 0)) fun start =>
    readUnsigned_toDigits start _ hn' hrest
  rw [signed_natAbs] at hread
  simpa [writeInt] using hread

/-- A finite double is written with digits that are read as it. -/
theorem readNumber_text {x : Double} (hx : x.isFinite) (hrest : IsBoundary rest) :
    readNumber (x.text ++ rest) = .ok (.float x, rest) := by
  cases x with
  | nan => cases hx
  | infinity negative => cases hx
  | finite negative m q h =>
    rw [Double.text, List.append_assoc]
    refine readNumber_signed negative fun start => ?_
    split
    case isTrue hzero =>
      subst hzero
      obtain rfl : q = -1074 := h.2.1.resolve_left (by decide)
      have hread := readUnsigned_float start negative ['0'] rfl (by decide)
        (cutFraction_zero hrest.endsDigits) (cutExponent_of_isBoundary hrest) (.inl (by decide))
      exact hread
    case isFalse hne =>
      obtain ⟨hleads, hnearest⟩ := Double.nearest_pointed h (Nat.pos_of_ne_zero hne) negative
      have hread := readUnsigned_layOut start negative hleads
        (Double.pointed (Double.shortest m q)).2 hrest
      rw [hnearest] at hread
      exact hread

end SqlCluster.Json
