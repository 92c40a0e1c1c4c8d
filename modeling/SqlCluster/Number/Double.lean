/-!
Numbers of the binary64 format as exact values. A finite double is `m * 2 ^ q` with a sign, in the
one form with a full mantissa or the lowest exponent. Every quotient of natural numbers has a
nearest double; of two that are equally near it is the one with the even mantissa.
-/

namespace SqlCluster

/-- The mantissas and exponents of finite doubles: each value has one such form. -/
def Canonical (m : Nat) (q : Int) : Prop :=
  m < Nat.pow 2 53 ∧ (Nat.pow 2 52 ≤ m ∨ q = -1074) ∧ -1074 ≤ q ∧ q ≤ 971

instance (m : Nat) (q : Int) : Decidable (Canonical m q) := by
  unfold Canonical; infer_instance

/-- A number of the binary64 format. -/
inductive Double where
  | nan
  | infinity (negative : Bool)
  | finite (negative : Bool) (m : Nat) (q : Int) (canonical : Canonical m q)
  deriving DecidableEq

/-- The natural number nearest to a quotient, the even one of two that are equally near. -/
def roundQuotient (num den : Nat) : Nat :=
  let n := num / den
  let twice := 2 * (num % den)
  if twice < den ∨ (twice = den ∧ n % 2 = 0) then n else n + 1

/-- The quotient of a quotient by a power of a base. -/
def scaleDown (base num den : Nat) (e : Int) : Nat × Nat :=
  if 0 ≤ e then (num, den * base.pow e.toNat) else (num * base.pow (-e).toNat, den)

namespace Double

instance : Inhabited Double := ⟨nan⟩

/-- Zero with a sign. -/
def zero (negative : Bool) : Double := .finite negative 0 (-1074) (by decide)

/-- The double of a mantissa and an exponent, infinite where the form is not canonical. -/
def ofParts (negative : Bool) (m : Nat) (q : Int) : Double :=
  if h : Canonical m q then .finite negative m q h else .infinity negative

/-- The exponent at which a positive quotient has a mantissa of 53 bits, if that is not too low. -/
def exponentFor (num den : Nat) : Int :=
  let e : Int := (num.log2 : Int) - (den.log2 : Int)
  let (n, d) := scaleDown 2 num den e
  max ((if d ≤ n then e else e - 1) - 52) (-1074)

/-- The double nearest to a quotient, with a sign. -/
def ofRatio (negative : Bool) (num den : Nat) : Double :=
  if num = 0 then zero negative
  else
    let q := exponentFor num den
    let (n, d) := scaleDown 2 num den q
    let m := roundQuotient n d
    if m = Nat.pow 2 53 then ofParts negative (Nat.pow 2 52) (q + 1) else ofParts negative m q

/-- The number of decimal digits of a natural number. -/
def digitCount (n : Nat) : Nat := (Nat.toDigits 10 n).length

/-- The double nearest to `n * 10 ^ e`, with a sign. Far outside the range of the format the
answer does not depend on the digits. -/
def ofDecimal (negative : Bool) (n : Nat) (e : Int) : Double :=
  let top := (digitCount n : Int) + e
  if n = 0 ∨ top < -330 then zero negative
  else if 310 < top then .infinity negative
  else
    let (num, den) := scaleDown 10 n 1 (-e)
    ofRatio negative num den

/-- The double nearest to an integer, if it is finite. -/
def ofInt? (n : Int) : Option Double :=
  match ofRatio (n < 0) n.natAbs 1 with
  | .finite s m q h => some (.finite s m q h)
  | _ => none

/-- An integer with a sign. -/
def signed (negative : Bool) (n : Nat) : Int := if negative then -(n : Int) else n

/-- The value of an integral double. -/
def toInt? : Double → Option Int
  | .finite s m q _ =>
    let (n, d) := scaleDown 2 m 1 (-q)
    if n % d = 0 then some (signed s (n / d)) else none
  | _ => none

/-- The integer part of a finite double, toward zero. -/
def truncate? : Double → Option Int
  | .finite s m q _ =>
    let (n, d) := scaleDown 2 m 1 (-q)
    some (signed s (n / d))
  | _ => none

/-- Whether a double is zero, of either sign. -/
def isZero : Double → Bool
  | .finite _ m _ _ => m == 0
  | _ => false

/-- Whether a double is finite. -/
def isFinite : Double → Bool
  | .finite .. => true
  | _ => false

/-- Whether a double is greater than zero. -/
def isPositive : Double → Bool
  | .finite s m _ _ => !s && m != 0
  | .infinity s => !s
  | .nan => false

/-- Whether a double is zero or less than zero; not a number is neither that nor positive. -/
def isNonpositive : Double → Bool
  | .finite s m _ _ => s || m == 0
  | .infinity s => s
  | .nan => false

end Double

end SqlCluster
