import SqlCluster.Proofs.Number.Rounding

/-!
The values of doubles. A finite double is a rational number, and it is read as an integer exactly if
that number is one (`Double.toInt?_eq_some_iff`).
-/

namespace SqlCluster

theorem natCast_div_eq_intCast_iff {num den : ℕ} (hden : 0 < den) {k : ℤ} :
    (num : ℚ) / den = k ↔ num % den = 0 ∧ ((num / den : ℕ) : ℤ) = k := by
  have hden' : (den : ℚ) ≠ 0 := by exact_mod_cast hden.ne'
  constructor
  · intro h
    rw [div_eq_iff hden'] at h
    have hmul : (num : ℤ) = k * den := by exact_mod_cast h
    have hdvd : den ∣ num := Int.natCast_dvd_natCast.1 (Dvd.intro_left k hmul.symm)
    refine ⟨Nat.mod_eq_zero_of_dvd hdvd, ?_⟩
    rw [Int.natCast_ediv, hmul, Int.mul_ediv_cancel _ (by exact_mod_cast hden.ne')]
  · rintro ⟨hmod, rfl⟩
    have hrest : (num : ℚ) / den - (num / den : ℕ) = 0 := by
      rw [div_sub_div_eq hden, hmod, Nat.cast_zero, zero_div]
    rw [sub_eq_zero.1 hrest, Int.cast_natCast]

namespace Double

/-- The number that a finite double is. -/
def value? : Double → Option ℚ
  | .finite negative m q _ => some (if negative then -(m * 2 ^ q) else m * 2 ^ q)
  | _ => none

/-- A double is read as an integer exactly if that integer is its value. -/
theorem toInt?_eq_some_iff {x : Double} {n : ℤ} : x.toInt? = some n ↔ x.value? = some (n : ℚ) := by
  cases x with
  | nan | infinity => exact iff_of_false nofun nofun
  | finite negative m q hcanonical =>
    obtain ⟨hden, hvalue⟩ := scaleDown_spec m Nat.two_pos Nat.one_pos (-q)
    have hquotient : ((scaleDown 2 m 1 (-q)).1 : ℚ) / (scaleDown 2 m 1 (-q)).2 = m * 2 ^ q := by
      rw [hvalue, Nat.cast_one, div_one, Nat.cast_ofNat, zpow_neg, div_inv_eq_mul]
    have hinteger (k : ℤ) : (m * 2 ^ q : ℚ) = k ↔
        (scaleDown 2 m 1 (-q)).1 % (scaleDown 2 m 1 (-q)).2 = 0 ∧
          (((scaleDown 2 m 1 (-q)).1 / (scaleDown 2 m 1 (-q)).2 : ℕ) : ℤ) = k := by
      rw [← hquotient]
      exact natCast_div_eq_intCast_iff hden
    simp only [toInt?, value?, Option.ite_none_right_eq_some, Option.some.injEq]
    cases negative with
    | false => exact (hinteger n).symm
    | true =>
      simp only [signed, if_true, neg_eq_iff_eq_neg, ← Int.cast_neg]
      exact (hinteger (-n)).symm

end Double

end SqlCluster
