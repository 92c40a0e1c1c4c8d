import Mathlib.Data.List.TakeWhile
import Mathlib.Data.Nat.Cast.Order.Field
import Mathlib.Tactic.Ring
import SqlCluster.Number.Shortest
import SqlCluster.Proofs.Number.Numeral
import SqlCluster.Proofs.Number.Rounding

/-!
The shortest decimal number that reads back as a double. Of the decimal numbers with 17 digits the
one nearest to a double lies less than half a step away from it, so the search for the shortest one
always succeeds (`exists_search_eq`), and what it finds is rounded to the double
(`nearest_shortest`).
-/

namespace SqlCluster.Double

variable {m : ℕ} {q : ℤ}

theorem zpow_decimalExponent_le {num den : ℕ} (hnum : 0 < num) (hden : 0 < den) :
    (10 : ℚ) ^ decimalExponent num den ≤ (num : ℚ) / den := by
  have hnum' : (0 : ℚ) < num := by exact_mod_cast hnum
  have hden' : (0 : ℚ) < den := by exact_mod_cast hden
  rw [decimalExponent]
  split
  case isTrue hle =>
    have hquot : num / den ≠ 0 := (Nat.div_pos hle hden).ne'
    have hpow : (10 : ℚ) ^ digitCount (num / den) ≤ 10 * (num / den : ℕ) := by
      exact_mod_cast pow_digitCount_le hquot
    have hfloor : ((num / den : ℕ) : ℚ) ≤ num / den := Nat.cast_div_le
    rw [zpow_sub_one₀ (by norm_num), zpow_natCast, mul_inv_le_iff₀ (by norm_num)]
    linarith
  case isFalse hlt =>
    -- the quotient the other way round, rounded up, is at most the power of ten
    obtain ⟨c, hc⟩ : ∃ c, c = (den + num - 1) / num := ⟨_, rfl⟩
    have hceil : den ≤ c * num := by
      have hdiv := Nat.div_add_mod (den + num - 1) num
      have hmod := Nat.mod_lt (den + num - 1) hnum
      rw [← hc] at hdiv
      rw [Nat.mul_comm]
      omega
    have hpow : c ≤ 10 ^ digitCount (c - 1) := by
      have := lt_pow_digitCount (c - 1)
      omega
    rw [← hc, zpow_neg, zpow_natCast, le_div_iff₀ hden', inv_mul_le_iff₀ (by positivity)]
    calc (den : ℚ) ≤ c * num := by exact_mod_cast hceil
      _ ≤ 10 ^ digitCount (c - 1) * num := by
        gcongr
        exact_mod_cast hpow

theorem exists_neighbour {den : ℕ} (num : ℕ) (hden : 0 < den) (count : ℕ) :
    ∃ d ∈ neighbours num den count, d.exponent = decimalExponent num den - count + 1 ∧
      |(d.digits : ℚ) - num / den / 10 ^ d.exponent| ≤ 1 / 2 := by
  obtain ⟨hpos, hvalue⟩ := scaleDown_spec num (show 0 < 10 by decide) hden
    (decimalExponent num den - count + 1)
  rw [neighbours]
  generalize decimalExponent num den - count + 1 = e at *
  generalize scaleDown 10 num den e = scaled at *
  obtain ⟨n, d⟩ := scaled
  dsimp only at hpos hvalue ⊢
  have hd : (0 : ℚ) < d := by exact_mod_cast hpos
  have hsplit : (n : ℚ) / d = (n / d : ℕ) + (n % d : ℕ) / d :=
    sub_eq_iff_eq_add'.1 (div_sub_div_eq hpos)
  rw [Nat.cast_ofNat] at hvalue
  split
  case isTrue h =>
    refine ⟨⟨n / d, e⟩, by simp, rfl, ?_⟩
    have hhalf : ((n % d : ℕ) : ℚ) / d ≤ 1 / 2 := by
      have hle : 2 * (n % d) ≤ d := by omega
      rw [div_le_div_iff₀ hd two_pos, one_mul, mul_comm]
      exact_mod_cast hle
    rw [← hvalue, hsplit, abs_le]
    constructor <;> linarith [show (0 : ℚ) ≤ ((n % d : ℕ) : ℚ) / d by positivity]
  case isFalse h =>
    refine ⟨⟨n / d + 1, e⟩, by simp, rfl, ?_⟩
    have hhalf : 1 / 2 ≤ ((n % d : ℕ) : ℚ) / d := by
      have hle : d ≤ 2 * (n % d) := by omega
      rw [div_le_div_iff₀ two_pos hd, one_mul, mul_comm]
      exact_mod_cast hle
    have hlt : ((n % d : ℕ) : ℚ) / d < 1 := by
      rw [div_lt_one hd]
      exact_mod_cast Nat.mod_lt n hpos
    rw [← hvalue, hsplit, abs_le]
    push_cast
    constructor <;> linarith

/-- Of the decimal numbers with 17 digits, the one nearest to a double is rounded to it. -/
theorem exists_neighbour_eq {num den : ℕ} (h : Canonical m q) (hm : 0 < m) (hden : 0 < den)
    (hvalue : (num : ℚ) / den = m * 2 ^ q) :
    ∃ d ∈ neighbours num den 17, ofDecimal false d.digits d.exponent = .finite false m q h := by
  have hm' : (1 : ℚ) ≤ m := by exact_mod_cast hm
  have hstep : (0 : ℚ) < 2 ^ q := by positivity
  have hnum : 0 < num := by
    have hpos : (0 : ℚ) < (num : ℚ) / den := by
      rw [hvalue]
      positivity
    have := (div_pos_iff_of_pos_right (by exact_mod_cast hden)).1 hpos
    exact_mod_cast this
  obtain ⟨d, hd, hexponent, hnear⟩ := exists_neighbour num hden 17
  refine ⟨d, hd, ?_⟩
  rw [ofDecimal_eq_nearest]
  have hten : (0 : ℚ) < 10 ^ d.exponent := by positivity
  -- the distance between the candidates is a small part of the step between doubles
  have hsmall : (10 : ℚ) ^ d.exponent * 10 ^ 16 ≤ m * 2 ^ q := by
    rw [← hvalue, ← zpow_natCast, ← zpow_add₀ (by norm_num), hexponent]
    refine le_trans (le_of_eq ?_) (zpow_decimalExponent_le hnum hden)
    congr 1
    push_cast
    ring
  have hlt : (m : ℚ) < 2 ^ 53 := by exact_mod_cast h.1
  have hratio : (10 : ℚ) ^ d.exponent / 2 ^ q * 10 ^ 16 ≤ m := by
    rw [div_mul_eq_mul_div, div_le_iff₀ hstep]
    exact hsmall
  have hclose : |(d.digits : ℚ) * 10 ^ d.exponent / 2 ^ q - m| ≤
      1 / 2 * (10 ^ d.exponent / 2 ^ q) := by
    have hscale : (d.digits : ℚ) * 10 ^ d.exponent / 2 ^ q - m =
        (d.digits - num / den / 10 ^ d.exponent) * (10 ^ d.exponent / 2 ^ q) := by
      rw [hvalue]
      field_simp
    rw [hscale, abs_mul, abs_of_pos (div_pos hten hstep)]
    exact mul_le_mul_of_nonneg_right hnear (div_pos hten hstep).le
  rw [abs_le] at hclose
  refine nearest_eq_finite h hm (by linarith) (by linarith) fun hpower _ => ?_
  have hcast : (m : ℚ) = 2 ^ 52 := by
    rw [hpower]
    norm_num
  linarith

theorem search_eq_some {x : Double} {num den fuel count : ℕ} {d : Decimal}
    (h : search x num den fuel count = some d) : ofDecimal false d.digits d.exponent = x := by
  induction fuel generalizing count with
  | zero => cases h
  | succ fuel ih =>
    rw [search] at h
    split at h
    next d' hfound =>
      cases h
      simpa using List.find?_some hfound
    next => exact ih h

theorem exists_search_eq {x : Double} {num den : ℕ} (fuel count k : ℕ) (hk : k < fuel)
    (h : ∃ d ∈ neighbours num den (count + k), ofDecimal false d.digits d.exponent = x) :
    ∃ d, search x num den fuel count = some d := by
  induction fuel generalizing count k with
  | zero => omega
  | succ fuel ih =>
    rw [search]
    split
    next d hfound => exact ⟨d, rfl⟩
    next hnone =>
      cases k with
      | zero =>
        obtain ⟨d, hd, hx⟩ := h
        exact absurd hx (by simpa using List.find?_eq_none.1 hnone d hd)
      | succ k =>
        refine ih (count + 1) k (by omega) ?_
        rwa [Nat.add_assoc, Nat.add_comm 1 k]

/-- The shortest decimal number of a double is rounded to it. -/
theorem ofDecimal_shortest (h : Canonical m q) (hm : 0 < m) :
    ofDecimal false (shortest m q).digits (shortest m q).exponent = .finite false m q h := by
  obtain ⟨hpos, hvalue⟩ := scaleDown_spec m Nat.two_pos Nat.one_pos (-q)
  rw [Nat.cast_one, div_one, Nat.cast_ofNat, zpow_neg, div_inv_eq_mul] at hvalue
  obtain ⟨d, hd⟩ := exists_search_eq 17 1 16 (by decide)
    (exists_neighbour_eq h hm hpos hvalue)
  have hshortest : shortest m q = d := by
    rw [shortest, ofParts_of_canonical h]
    dsimp only
    rw [hd, Option.getD_some]
  rw [hshortest]
  exact search_eq_some hd

/-! ### Digits and the decimal point -/

theorem exists_zeros (s : List Char) :
    ∃ k, (s.reverse.dropWhile (· = '0')).reverse ++ List.replicate k '0' = s := by
  have hzeros : ∀ c ∈ s.reverse.takeWhile (· = '0'), c = '0' := by
    intro c hc
    simpa using List.mem_takeWhile_imp hc
  refine ⟨(s.reverse.takeWhile (· = '0')).length, ?_⟩
  rw [← List.reverse_replicate, ← List.eq_replicate_of_mem hzeros, ← List.reverse_append,
    List.takeWhile_append_dropWhile, List.reverse_reverse]

theorem leads_of_append_zeros {s : List Char} {k : ℕ}
    (h : Numeral.Leads (s ++ List.replicate k '0')) : Numeral.Leads s := by
  refine ⟨fun c hc => h.digits c (List.mem_append_left _ hc), ?_⟩
  cases s with
  | cons c s => exact h.nonzero
  | nil =>
    have hnonzero := h.nonzero
    cases k with
    | zero => exact hnonzero
    | succ k => exact absurd hnonzero (by simp [List.replicate_succ])

/-- Setting the point keeps the value of a decimal number. -/
theorem pointed_spec {d : Decimal} (hd : d.digits ≠ 0) :
    Numeral.Leads (pointed d).1 ∧ (d.digits : ℚ) * 10 ^ d.exponent =
      Numeral.digitsValue (pointed d).1 * 10 ^ ((pointed d).2 - (pointed d).1.length) := by
  obtain ⟨k, hk⟩ := exists_zeros (Nat.toDigits 10 d.digits)
  rw [pointed]
  generalize ((Nat.toDigits 10 d.digits).reverse.dropWhile (· = '0')).reverse = s at hk ⊢
  have hleads := Numeral.leads_toDigits hd
  have hvalue := Numeral.digitsValue_toDigits d.digits
  rw [← hk, Numeral.digitsValue_append, Numeral.digitsValue_zeros, Nat.add_zero,
    List.length_replicate] at hvalue
  rw [← hk] at hleads
  refine ⟨leads_of_append_zeros hleads, ?_⟩
  rw [← hk, ← hvalue, List.length_append, List.length_replicate]
  push_cast
  rw [mul_assoc, ← zpow_natCast, ← zpow_add₀ (by norm_num)]
  congr 2
  ring

theorem nearest_sign {r : ℚ} {s s' : Bool} {h : Canonical m q}
    (hr : nearest s r = .finite s m q h) : nearest s' r = .finite s' m q h := by
  have hparts : ∀ n e, ofParts s n e = .finite s m q h → ofParts s' n e = .finite s' m q h := by
    intro n e hn
    rw [ofParts] at hn ⊢
    split at hn
    next hcanonical =>
      cases hn
      exact dif_pos hcanonical
    next => cases hn
  rw [nearest, roundOn] at hr ⊢
  split at hr
  next hzero =>
    cases hr
    exact if_pos hzero
  next hzero =>
    rw [if_neg hzero]
    split at hr
    next hcarry =>
      rw [if_pos hcarry]
      exact hparts _ _ hr
    next hcarry =>
      rw [if_neg hcarry]
      exact hparts _ _ hr

/-- The digits that a double is written with denote a number that is rounded to it. -/
theorem nearest_pointed (h : Canonical m q) (hm : 0 < m) (negative : Bool) :
    Numeral.Leads (pointed (shortest m q)).1 ∧
      nearest negative (Numeral.digitsValue (pointed (shortest m q)).1 *
        10 ^ ((pointed (shortest m q)).2 - (pointed (shortest m q)).1.length)) =
        .finite negative m q h := by
  have hshortest := ofDecimal_shortest h hm
  rw [ofDecimal_eq_nearest] at hshortest
  have hdigits : (shortest m q).digits ≠ 0 := by
    intro hzero
    rw [hzero, Nat.cast_zero, zero_mul, nearest, if_pos rfl] at hshortest
    cases hshortest
    exact absurd hm (by decide)
  obtain ⟨hleads, hvalue⟩ := pointed_spec hdigits
  rw [hvalue] at hshortest
  exact ⟨hleads, nearest_sign hshortest⟩

end SqlCluster.Double
