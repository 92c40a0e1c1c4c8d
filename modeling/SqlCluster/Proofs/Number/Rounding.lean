import Mathlib.Algebra.Order.Field.Power
import Mathlib.Algebra.Order.Floor.Semifield
import Mathlib.Data.Int.Log
import Mathlib.Data.Rat.Floor
import Mathlib.Tactic.FieldSimp
import Mathlib.Tactic.Linarith
import Mathlib.Tactic.Positivity
import SqlCluster.Number.Double

/-!
Rounding to doubles. The double nearest to a rational number (`Double.nearest`) has the exponent of
the grid on which the number has 53 digits in base two, or of the lowest grid. The rounding of
quotients and of decimal numbers is that of their values, so two texts of one number read as one
double. A number less than half a step away from a double is rounded to it (`nearest_eq_finite`),
and exactly those from the middle between the largest double and the next step on are rounded to
infinity (`isFinite_nearest_iff`).
-/

namespace SqlCluster

/-! ### Quotients -/

theorem scaleDown_spec {base den : Nat} (num : Nat) (hbase : 0 < base) (hden : 0 < den) (e : Int) :
    0 < (scaleDown base num den e).2 ∧
      ((scaleDown base num den e).1 : ℚ) / (scaleDown base num den e).2 =
        (num : ℚ) / den / (base : ℚ) ^ e := by
  have hb : (base : ℚ) ≠ 0 := by positivity
  rw [scaleDown]
  split
  next h =>
    lift e to ℕ using h
    refine ⟨Nat.mul_pos hden (Nat.pow_pos hbase), ?_⟩
    simp only [Int.toNat_natCast, Nat.pow_eq, Nat.cast_mul, Nat.cast_pow, zpow_natCast]
    rw [div_div]
  next h =>
    obtain ⟨k, rfl⟩ : ∃ k : ℕ, e = -(k : ℤ) := ⟨e.natAbs, by omega⟩
    refine ⟨hden, ?_⟩
    simp only [neg_neg, Int.toNat_natCast, Nat.pow_eq, Nat.cast_mul, Nat.cast_pow, zpow_neg,
      zpow_natCast]
    field_simp

/-- The natural number nearest to a rational one, the even one of two that are equally near. -/
def roundEven (r : ℚ) : ℕ :=
  if r - ⌊r⌋₊ < 1 / 2 ∨ r - ⌊r⌋₊ = 1 / 2 ∧ ⌊r⌋₊ % 2 = 0 then ⌊r⌋₊ else ⌊r⌋₊ + 1

theorem div_sub_div_eq {num den : Nat} (hden : 0 < den) :
    (num : ℚ) / den - (num / den : ℕ) = (num % den : ℕ) / den := by
  have hden' : (den : ℚ) ≠ 0 := by exact_mod_cast hden.ne'
  rw [eq_div_iff hden', sub_mul, div_mul_cancel₀ _ hden', sub_eq_iff_eq_add']
  exact_mod_cast (Nat.div_add_mod' num den).symm

theorem roundQuotient_eq_roundEven {num den : Nat} (hden : 0 < den) :
    roundQuotient num den = roundEven ((num : ℚ) / den) := by
  have hden' : (0 : ℚ) < den := by exact_mod_cast hden
  have hfloor : ⌊(num : ℚ) / den⌋₊ = num / den := Nat.floor_div_eq_div num den
  have hlt : ((num % den : ℕ) : ℚ) / den < 1 / 2 ↔ 2 * (num % den) < den := by
    rw [div_lt_div_iff₀ hden' two_pos, one_mul, mul_comm]
    exact_mod_cast Iff.rfl
  have heq : ((num % den : ℕ) : ℚ) / den = 1 / 2 ↔ 2 * (num % den) = den := by
    rw [div_eq_div_iff hden'.ne' two_ne_zero, one_mul, mul_comm]
    exact_mod_cast Iff.rfl
  rw [roundQuotient, roundEven, hfloor, div_sub_div_eq hden]
  simp only [hlt, heq]

section

variable {r : ℚ} {n : ℕ}

theorem le_roundEven (h : (n : ℚ) ≤ r) : n ≤ roundEven r := by
  have hfloor : n ≤ ⌊r⌋₊ := Nat.le_floor h
  rw [roundEven]
  split <;> omega

theorem roundEven_le (h0 : 0 ≤ r) (h : r ≤ n) : roundEven r ≤ n := by
  rw [roundEven]
  split
  case isTrue => exact Nat.floor_le_of_le h
  case isFalse hmiddle =>
    have hne : r ≠ ⌊r⌋₊ := by
      intro heq
      exact hmiddle (.inl (by rw [← heq, sub_self]; positivity))
    have hlt : (⌊r⌋₊ : ℚ) < n := lt_of_lt_of_le (lt_of_le_of_ne (Nat.floor_le h0) hne.symm) h
    exact_mod_cast hlt

/-- A number less than one half away from a natural number is rounded to it. -/
theorem roundEven_eq (h0 : 0 ≤ r) (hlow : (n : ℚ) - 1 / 2 < r) (hhigh : r < n + 1 / 2) :
    roundEven r = n := by
  have hle := Nat.floor_le h0
  have hlt := Nat.lt_floor_add_one r
  have hcases : ⌊r⌋₊ = n ∨ ⌊r⌋₊ + 1 = n := by
    have hupper : (⌊r⌋₊ : ℚ) < n + 1 := by linarith
    have hlower : (n : ℚ) < ⌊r⌋₊ + 2 := by linarith
    norm_cast at hupper hlower
    omega
  obtain heq | heq := hcases
  · rw [roundEven, if_pos (.inl (by rw [heq]; linarith)), heq]
  · have hcast : (n : ℚ) = ⌊r⌋₊ + 1 := by exact_mod_cast heq.symm
    rw [roundEven, if_neg (by rintro (h | ⟨h, -⟩) <;> linarith), heq]

/-- The middle above an odd number is rounded up. -/
theorem roundEven_eq_succ_iff (hodd : n % 2 = 1) (hle : (n : ℚ) ≤ r) (hlt : r < n + 1) :
    roundEven r = n + 1 ↔ (n : ℚ) + 1 / 2 ≤ r := by
  have hfloor : ⌊r⌋₊ = n := (Nat.floor_eq_iff (le_trans (by positivity) hle)).2 ⟨hle, hlt⟩
  have hcond : (r - n < 1 / 2 ∨ r - n = 1 / 2 ∧ n % 2 = 0) ↔ r < n + 1 / 2 := by
    constructor
    · rintro (h | ⟨-, h⟩)
      · linarith
      · omega
    · intro h
      exact .inl (by linarith)
  rw [roundEven, hfloor]
  simp only [hcond]
  split
  case isTrue h => exact iff_of_false (by omega) (by linarith)
  case isFalse h => exact iff_of_true rfl (not_lt.1 h)

end

/-! ### Grids -/

theorem log_quotient {num den : Nat} (hnum : num ≠ 0) (hden : den ≠ 0) :
    (num.log2 : ℤ) - den.log2 - 1 ≤ Int.log 2 ((num : ℚ) / den) ∧
      Int.log 2 ((num : ℚ) / den) ≤ (num.log2 : ℤ) - den.log2 := by
  have hnum' : (0 : ℚ) < num := by exact_mod_cast Nat.pos_of_ne_zero hnum
  have hden' : (0 : ℚ) < den := by exact_mod_cast Nat.pos_of_ne_zero hden
  have hpow : ∀ a b : ℕ, (2 : ℚ) ^ ((a : ℤ) - b) = 2 ^ a / 2 ^ b := fun a b => by
    rw [zpow_sub₀ two_ne_zero, zpow_natCast, zpow_natCast]
  have hbelow : ((2 : ℕ) : ℚ) ^ ((num.log2 : ℤ) - (den.log2 + 1 : ℕ)) ≤ (num : ℚ) / den := by
    rw [Nat.cast_ofNat, hpow]
    gcongr
    · exact_mod_cast Nat.log2_self_le hnum
    · exact_mod_cast Nat.lt_log2_self.le
  have habove : (num : ℚ) / den < ((2 : ℕ) : ℚ) ^ (((num.log2 + 1 : ℕ) : ℤ) - den.log2) := by
    rw [Nat.cast_ofNat, hpow]
    rw [div_lt_div_iff₀ hden' (by positivity)]
    refine mul_lt_mul ?_ ?_ (by positivity) (by positivity)
    · exact_mod_cast Nat.lt_log2_self
    · exact_mod_cast Nat.log2_self_le hden
  rw [Int.zpow_le_iff_le_log Nat.one_lt_two (div_pos hnum' hden')] at hbelow
  rw [Int.lt_zpow_iff_log_lt Nat.one_lt_two (div_pos hnum' hden')] at habove
  push_cast at hbelow habove
  omega

/-- The exponent of the grid on which a positive number is rounded. -/
def gridExponent (r : ℚ) : ℤ := max (Int.log 2 r - 52) (-1074)

theorem exponentFor_eq_gridExponent {num den : Nat} (hnum : num ≠ 0) (hden : den ≠ 0) :
    Double.exponentFor num den = gridExponent ((num : ℚ) / den) := by
  have hr : 0 < (num : ℚ) / den := by
    have hnum' : (0 : ℚ) < num := by exact_mod_cast Nat.pos_of_ne_zero hnum
    have hden' : (0 : ℚ) < den := by exact_mod_cast Nat.pos_of_ne_zero hden
    positivity
  obtain ⟨hlow, hhigh⟩ := log_quotient hnum hden
  rw [Double.exponentFor, gridExponent]
  generalize (num.log2 : ℤ) - den.log2 = e at hlow hhigh
  obtain ⟨hpos, hvalue⟩ := scaleDown_spec num Nat.two_pos (Nat.pos_of_ne_zero hden) e
  have hle : (scaleDown 2 num den e).2 ≤ (scaleDown 2 num den e).1 ↔
      e ≤ Int.log 2 ((num : ℚ) / den) := by
    have hpos' : (0 : ℚ) < (scaleDown 2 num den e).2 := by exact_mod_cast hpos
    rw [← Int.zpow_le_iff_le_log Nat.one_lt_two hr, ← one_mul (((2 : ℕ) : ℚ) ^ e),
      ← le_div_iff₀ (by positivity), ← hvalue, le_div_iff₀ hpos', one_mul]
    exact_mod_cast Iff.rfl
  simp only [hle]
  split <;> congr 2 <;> omega

section

variable {r : ℚ} {q : ℤ}

/-- On its grid a number has at most 53 digits in base two, and no fewer unless the grid is the
lowest one. -/
theorem gridExponent_spec (hr : 0 < r) :
    -1074 ≤ gridExponent r ∧ r / 2 ^ gridExponent r < 2 ^ 53 ∧
      (gridExponent r = -1074 ∨ 2 ^ 52 ≤ r / 2 ^ gridExponent r) := by
  have hbelow : (2 : ℚ) ^ Int.log 2 r ≤ r := by
    simpa using Int.zpow_log_le_self (b := 2) Nat.one_lt_two hr
  have habove : r < (2 : ℚ) ^ (Int.log 2 r + 1) := by
    simpa using Int.lt_zpow_succ_log_self (b := 2) Nat.one_lt_two r
  refine ⟨le_max_right _ _, ?_, ?_⟩
  · rw [div_lt_iff₀ (by positivity), ← zpow_natCast, ← zpow_add₀ two_ne_zero]
    refine habove.trans_le (zpow_le_zpow_right₀ one_le_two ?_)
    push_cast
    rw [gridExponent]
    omega
  · by_cases hlog : Int.log 2 r - 52 ≤ -1074
    · exact .inl (max_eq_right hlog)
    · refine .inr ?_
      rw [le_div_iff₀ (by positivity), ← zpow_natCast, ← zpow_add₀ two_ne_zero]
      refine le_trans (zpow_le_zpow_right₀ one_le_two ?_) hbelow
      push_cast
      rw [gridExponent]
      omega

/-- There is no other grid on which that is so. -/
theorem gridExponent_eq (hr : 0 < r) (hq : -1074 ≤ q) (hlt : r / 2 ^ q < 2 ^ 53)
    (hle : q = -1074 ∨ 2 ^ 52 ≤ r / 2 ^ q) : gridExponent r = q := by
  have hlog : Int.log 2 r < 53 + q := by
    rw [← Int.lt_zpow_iff_log_lt Nat.one_lt_two hr, Nat.cast_ofNat, zpow_add₀ two_ne_zero]
    exact (div_lt_iff₀ (by positivity)).1 (by exact_mod_cast hlt)
  rw [gridExponent]
  obtain rfl | hle := hle
  · omega
  · have hlog' : 52 + q ≤ Int.log 2 r := by
      rw [← Int.zpow_le_iff_le_log Nat.one_lt_two hr, Nat.cast_ofNat, zpow_add₀ two_ne_zero]
      exact (le_div_iff₀ (by positivity)).1 (by exact_mod_cast hle)
    omega

end

namespace Double

/-- The double that a number becomes on the grid with an exponent. -/
def roundOn (negative : Bool) (r : ℚ) (q : ℤ) : Double :=
  if roundEven (r / 2 ^ q) = Nat.pow 2 53 then ofParts negative (Nat.pow 2 52) (q + 1)
  else ofParts negative (roundEven (r / 2 ^ q)) q

/-- The double nearest to a rational number that is not negative, with a sign; of two that are
equally near it is the one with the even mantissa. -/
def nearest (negative : Bool) (r : ℚ) : Double :=
  if r = 0 then zero negative else roundOn negative r (gridExponent r)

theorem ofRatio_eq_nearest {num den : Nat} (negative : Bool) (hden : 0 < den) :
    ofRatio negative num den = nearest negative ((num : ℚ) / den) := by
  have hden' : (den : ℚ) ≠ 0 := by exact_mod_cast hden.ne'
  by_cases hnum : num = 0
  · simp [ofRatio, nearest, hnum]
  · have hr : (num : ℚ) / den ≠ 0 := div_ne_zero (by exact_mod_cast hnum) hden'
    obtain ⟨hpos, hvalue⟩ := scaleDown_spec num Nat.two_pos hden
      (gridExponent ((num : ℚ) / den))
    simp only [ofRatio, nearest, roundOn, if_neg hnum, if_neg hr,
      exponentFor_eq_gridExponent hnum hden.ne', roundQuotient_eq_roundEven hpos, hvalue,
      Nat.cast_ofNat]

section

variable {r : ℚ} {m : ℕ} {q : ℤ} {negative : Bool}

theorem ofParts_of_canonical (h : Canonical m q) :
    ofParts negative m q = .finite negative m q h := dif_pos h

/-- A number less than half a step away from a double is rounded to it; below a power of two the
steps are half as long. -/
theorem nearest_eq_finite (h : Canonical m q) (hm : 0 < m) (hlow : (m : ℚ) - 1 / 2 < r / 2 ^ q)
    (hhigh : r / 2 ^ q < m + 1 / 2)
    (hshort : m = Nat.pow 2 52 → q ≠ -1074 → (m : ℚ) - 1 / 4 < r / 2 ^ q) :
    nearest negative r = .finite negative m q h := by
  obtain ⟨hlt, hfull, hq, -⟩ := id h
  have hm' : (1 : ℚ) ≤ m := by exact_mod_cast hm
  have hlt' : (m : ℚ) + 1 ≤ 2 ^ 53 := by exact_mod_cast hlt
  have hr : 0 < r := by
    have hpos : (0 : ℚ) < r / 2 ^ q := by linarith
    exact (div_pos_iff_of_pos_right (by positivity)).1 hpos
  rw [nearest, if_neg hr.ne', roundOn]
  by_cases hgrid : q = -1074 ∨ 2 ^ 52 ≤ r / 2 ^ q
  · rw [gridExponent_eq hr hq (by linarith) hgrid, roundEven_eq (by linarith) hlow hhigh,
      if_neg hlt.ne, ofParts_of_canonical h]
  · -- the number lies below the power of two that the double is, so its grid is the next finer one
    obtain ⟨hlowest, hbelow⟩ := not_or.1 hgrid
    have hpower : m = Nat.pow 2 52 := by
      refine le_antisymm ?_ (hfull.resolve_right hlowest)
      have : (m : ℚ) < 2 ^ 52 + 1 := by linarith
      exact Nat.lt_succ_iff.1 (by exact_mod_cast this)
    have hm52 : (m : ℚ) = 2 ^ 52 := by rw [hpower]; norm_num
    have hdouble : r / 2 ^ (q - 1) = 2 * (r / 2 ^ q) := by
      rw [zpow_sub_one₀ two_ne_zero]
      field_simp
    have hclose := hshort hpower hlowest
    have hquot : gridExponent r = q - 1 := by
      refine gridExponent_eq hr (by omega) ?_ (.inr ?_) <;> rw [hdouble] <;> linarith
    have hround : roundEven (r / 2 ^ (q - 1)) = Nat.pow 2 53 := by
      have hcast : ((Nat.pow 2 53 : ℕ) : ℚ) = 2 ^ 53 := by norm_num
      refine roundEven_eq ?_ ?_ ?_ <;> rw [hdouble] <;> linarith
    rw [hquot, if_pos hround, sub_add_cancel]
    subst hpower
    exact ofParts_of_canonical h

/-! ### Overflow -/

theorem isFinite_ofParts : (ofParts negative m q).isFinite ↔ Canonical m q := by
  rw [ofParts]
  split <;> simp_all [isFinite]

/-- Below the mantissa with one more digit the last half step is rounded up to it. -/
theorem roundEven_eq_carry_iff {x : ℚ} (h0 : 0 ≤ x) (hlt : x < 2 ^ 53) :
    roundEven x = Nat.pow 2 53 ↔ 2 ^ 53 - 1 / 2 ≤ x := by
  have hcast : ((Nat.pow 2 53 - 1 : ℕ) : ℚ) = 2 ^ 53 - 1 := by norm_num
  by_cases hlast : ((Nat.pow 2 53 - 1 : ℕ) : ℚ) ≤ x
  · have hsucc := roundEven_eq_succ_iff (by decide) hlast (by rw [hcast]; linarith)
    rw [show (2 : ℚ) ^ 53 - 1 / 2 = (Nat.pow 2 53 - 1 : ℕ) + 1 / 2 by rw [hcast]; ring]
    exact hsucc
  · have hle : roundEven x ≤ Nat.pow 2 53 - 1 := roundEven_le h0 (not_le.1 hlast).le
    rw [hcast] at hlast
    refine iff_of_false (fun heq => ?_) (by linarith)
    rw [heq] at hle
    exact absurd hle (by decide)

/-- The middle between the largest double and the step that would follow it. -/
def overflowBound : Nat := (Nat.pow 2 54 - 1) * Nat.pow 2 970

theorem cast_overflowBound : (overflowBound : ℚ) = (2 ^ 53 - 1 / 2) * 2 ^ (971 : ℤ) := by
  have hcast : ∀ k : ℕ, (((Nat.pow 2 54 - 1) * Nat.pow 2 k : ℕ) : ℚ) =
      (2 ^ 53 - 1 / 2) * 2 ^ ((k : ℤ) + 1) := fun k => by
    have hdigits : ((Nat.pow 2 54 - 1 : ℕ) : ℚ) = 2 * (2 ^ 53 - 1 / 2) := by norm_num
    rw [Nat.cast_mul, hdigits, Nat.pow_eq, Nat.cast_pow, Nat.cast_ofNat,
      zpow_add_one₀ two_ne_zero, zpow_natCast]
    ring
  -- the power is too large to be evaluated
  obtain ⟨k, hk⟩ : ∃ k : ℕ, k = 970 := ⟨_, rfl⟩
  have hlast : (k : ℤ) + 1 = 971 := by omega
  rw [overflowBound, ← hk, hcast, hlast]

theorem lt_overflowBound_iff (hr : 0 < r) :
    r < overflowBound ↔ gridExponent r < 971 ∨
      gridExponent r = 971 ∧ r / 2 ^ gridExponent r < 2 ^ 53 - 1 / 2 := by
  obtain ⟨-, hlt, hfull⟩ := gridExponent_spec hr
  rw [cast_overflowBound]
  generalize gridExponent r = q at hlt hfull ⊢
  have hdoubled : ∀ a b : ℤ, a < b → (2 : ℚ) ^ a * 2 ≤ 2 ^ b := fun a b hab => by
    rw [← zpow_add_one₀ two_ne_zero]
    exact zpow_le_zpow_right₀ one_le_two hab
  have hstep : (0 : ℚ) < 2 ^ q := by positivity
  obtain ⟨x, rfl⟩ : ∃ x, r = x * 2 ^ q := ⟨r / 2 ^ q, (div_mul_cancel₀ r hstep.ne').symm⟩
  rw [mul_div_cancel_right₀ x hstep.ne'] at hlt hfull ⊢
  obtain hsmall | rfl | hlarge := lt_trichotomy q 971
  · have hstep' := hdoubled q 971 hsmall
    refine iff_of_true ?_ (.inl hsmall)
    generalize (2 : ℚ) ^ (971 : ℤ) = top at *
    nlinarith
  · rw [mul_lt_mul_iff_of_pos_right hstep]
    simp
  · have hstep' := hdoubled 971 q hlarge
    have hfull' := hfull.resolve_left (by omega)
    refine iff_of_false ?_ (by omega)
    generalize (2 : ℚ) ^ (971 : ℤ) = top at *
    nlinarith

/-- Exactly the numbers below that middle are rounded to finite doubles. -/
theorem isFinite_nearest_iff (negative : Bool) (h0 : 0 ≤ r) :
    (nearest negative r).isFinite ↔ r < overflowBound := by
  rw [nearest]
  split
  case isTrue hzero =>
    subst hzero
    exact iff_of_true rfl (by rw [cast_overflowBound]; positivity)
  case isFalse hne =>
    have hr : 0 < r := lt_of_le_of_ne h0 (Ne.symm hne)
    obtain ⟨hq, hlt, hfull⟩ := gridExponent_spec hr
    have hcarry := (roundEven_eq_carry_iff (by positivity) hlt).not
    rw [not_le] at hcarry
    rw [lt_overflowBound_iff hr, ← hcarry, roundOn]
    have hm : roundEven (r / 2 ^ gridExponent r) ≤ Nat.pow 2 53 :=
      roundEven_le (by positivity) (by norm_num; exact hlt.le)
    have hmfull : Nat.pow 2 52 ≤ roundEven (r / 2 ^ gridExponent r) ∨ gridExponent r = -1074 :=
      hfull.symm.imp_left fun h => le_roundEven (by norm_num; exact h)
    split
    case isTrue h =>
      have hpower : Nat.pow 2 52 < Nat.pow 2 53 := by decide
      simp only [isFinite_ofParts, Canonical, h, hpower, le_refl, true_or, not_true, and_false,
        or_false, true_and]
      omega
    case isFalse h =>
      have hm' := lt_of_le_of_ne hm h
      simp only [isFinite_ofParts, Canonical, hm', hmfull, hq, h, not_false_eq_true, true_and,
        and_true]
      omega

theorem ofParts_cases (negative : Bool) (m : ℕ) (q : ℤ) :
    (ofParts negative m q).isFinite ∨ ofParts negative m q = .infinity negative := by
  by_cases h : Canonical m q
  · exact .inl (isFinite_ofParts.2 h)
  · exact .inr (dif_neg h)

theorem nearest_cases (negative : Bool) (r : ℚ) :
    (nearest negative r).isFinite ∨ nearest negative r = .infinity negative := by
  rw [nearest, roundOn]
  split
  · exact .inl rfl
  · split <;> exact ofParts_cases ..

theorem nearest_eq_infinity (h : (overflowBound : ℚ) ≤ r) :
    nearest negative r = .infinity negative := by
  have h0 : 0 ≤ r := le_trans (by positivity) h
  exact (nearest_cases negative r).resolve_left
    ((isFinite_nearest_iff negative h0).not.2 (not_lt.2 h))

theorem nearest_eq_zero (h0 : 0 ≤ r) (h : r < 2 ^ (-1075 : ℤ)) :
    nearest negative r = zero negative := by
  rw [nearest]
  split
  case isTrue => rfl
  case isFalse hne =>
    have hr : 0 < r := lt_of_le_of_ne h0 (Ne.symm hne)
    have hstep : (0 : ℚ) < 2 ^ (-1074 : ℤ) := zpow_pos two_pos _
    have hpos : 0 < r / 2 ^ (-1074 : ℤ) := div_pos hr hstep
    have hhalf : (2 : ℚ) ^ (-1075 : ℤ) = 1 / 2 * 2 ^ (-1074 : ℤ) := by
      rw [show (-1075 : ℤ) = -1074 - 1 from rfl, zpow_sub_one₀ two_ne_zero, mul_comm, one_div]
    have hsmall : r / 2 ^ (-1074 : ℤ) < 1 / 2 := by
      rw [div_lt_iff₀ hstep, ← hhalf]
      exact h
    have hgrid : gridExponent r = -1074 :=
      gridExponent_eq hr le_rfl (by linarith) (.inl rfl)
    have hround : roundEven (r / 2 ^ (-1074 : ℤ)) = 0 := by
      refine roundEven_eq hpos.le ?_ ?_ <;> rw [Nat.cast_zero] <;> linarith
    rw [hgrid, roundOn, hround, if_neg (by decide), zero, ofParts_of_canonical (by decide)]

/-! ### Decimal numbers -/

theorem digitCount_le_iff {n k : ℕ} (hk : 0 < k) : digitCount n ≤ k ↔ n < 10 ^ k :=
  Nat.length_toDigits_le_iff (by decide) hk

theorem lt_pow_digitCount (n : ℕ) : n < 10 ^ digitCount n :=
  (digitCount_le_iff Nat.length_toDigits_pos).1 le_rfl

theorem pow_digitCount_le {n : ℕ} (hn : n ≠ 0) : 10 ^ digitCount n ≤ 10 * n := by
  obtain ⟨k, hk⟩ : ∃ k, digitCount n = k + 1 :=
    Nat.exists_eq_add_one_of_ne_zero (Nat.length_toDigits_pos.ne')
  rw [hk, pow_succ']
  refine Nat.mul_le_mul_left 10 ?_
  by_cases h0 : k = 0
  · rw [h0]
    omega
  · rw [← not_lt, ← digitCount_le_iff (Nat.pos_of_ne_zero h0)]
    omega

theorem zpow_neg_le_zpow_neg {k l : ℕ} (h : Nat.pow 2 l ≤ Nat.pow 10 k) :
    (10 : ℚ) ^ (-(k : ℤ)) ≤ 2 ^ (-(l : ℤ)) := by
  rw [zpow_neg, zpow_neg, zpow_natCast, zpow_natCast]
  exact inv_anti₀ (by positivity) (by exact_mod_cast h)

theorem overflowBound_le_zpow {k : ℕ} (h : overflowBound ≤ Nat.pow 10 k) :
    (overflowBound : ℚ) ≤ 10 ^ (k : ℤ) := by
  rw [zpow_natCast]
  exact_mod_cast h

/-- A decimal number becomes the double nearest to its value: far outside the range of the format
that is zero or infinity. -/
theorem ofDecimal_eq_nearest (negative : Bool) (n : ℕ) (e : ℤ) :
    ofDecimal negative n e = nearest negative (n * 10 ^ e) := by
  have hten : (0 : ℚ) < 10 ^ e := by positivity
  rw [ofDecimal]
  by_cases hn : n = 0
  · simp [hn, nearest]
  have hlow : (10 : ℚ) ^ ((digitCount n : ℤ) + e) ≤ 10 * (n * 10 ^ e) := by
    rw [zpow_add₀ (by norm_num), zpow_natCast, ← mul_assoc]
    gcongr
    exact_mod_cast pow_digitCount_le hn
  have hhigh : n * 10 ^ e < (10 : ℚ) ^ ((digitCount n : ℤ) + e) := by
    rw [zpow_add₀ (by norm_num), zpow_natCast]
    gcongr
    exact_mod_cast lt_pow_digitCount n
  generalize (digitCount n : ℤ) + e = top at hlow hhigh ⊢
  split
  case isTrue hsmall =>
    have htop : top ≤ -(331 : ℕ) := by omega
    have hpow : (10 : ℚ) ^ (-((331 : ℕ) : ℤ)) ≤ 2 ^ (-((1075 : ℕ) : ℤ)) :=
      zpow_neg_le_zpow_neg (by decide +kernel)
    refine (nearest_eq_zero (by positivity) (hhigh.trans_le ?_)).symm
    exact (zpow_le_zpow_right₀ (by norm_num) htop).trans hpow
  case isFalse =>
    split
    case isTrue hlarge =>
      have hpow : (overflowBound : ℚ) ≤ 10 ^ ((310 : ℕ) : ℤ) :=
        overflowBound_le_zpow (by decide +kernel)
      have htop : (10 : ℚ) ^ (((310 : ℕ) : ℤ) + 1) ≤ 10 ^ top :=
        zpow_le_zpow_right₀ (by norm_num) (by omega)
      rw [zpow_add_one₀ (by norm_num)] at htop
      exact (nearest_eq_infinity (by linarith)).symm
    case isFalse =>
      obtain ⟨hpos, hvalue⟩ := scaleDown_spec n (show 0 < 10 by decide) Nat.one_pos (-e)
      dsimp only
      rw [ofRatio_eq_nearest negative hpos, hvalue]
      congr 1
      push_cast
      rw [zpow_neg, div_one, div_inv_eq_mul]

/-! ### Integers -/

/-- An integer has a double exactly if it lies below the middle beyond the largest one. -/
theorem ofInt?_eq_none_iff {n : ℤ} : ofInt? n = none ↔ overflowBound ≤ n.natAbs := by
  have h0 : (0 : ℚ) ≤ n.natAbs := Nat.cast_nonneg _
  have hfinite := isFinite_nearest_iff (n < 0) h0
  rw [Nat.cast_lt] at hfinite
  rw [ofInt?, ofRatio_eq_nearest _ one_pos, Nat.cast_one, div_one, ← not_lt, ← hfinite]
  split <;> simp_all [isFinite]

end

end Double

end SqlCluster
