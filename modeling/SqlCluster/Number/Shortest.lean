import SqlCluster.Number.Double

/-!
The text of a double: the fewest decimal digits that read back as it, and of the candidates with
that many digits the one nearest to its value. The digits stand in positional notation from 1e-4 up
to below 1e16 and with an exponent of at least two digits outside, and an integral value keeps `.0`.
-/

namespace SqlCluster.Double

/-- A decimal number `digits * 10 ^ exponent`. -/
structure Decimal where
  digits : Nat
  exponent : Int
  deriving DecidableEq, Repr

/-- The largest exponent of ten whose power is at most a positive quotient. -/
def decimalExponent (num den : Nat) : Int :=
  if den ≤ num then (digitCount (num / den) : Int) - 1
  else -(digitCount ((den + num - 1) / num - 1) : Int)

/-- The two neighbours of a positive quotient among the decimal numbers with a count of digits,
nearest first. -/
def neighbours (num den count : Nat) : List Decimal :=
  let e := decimalExponent num den - count + 1
  let (n, d) := scaleDown 10 num den e
  let below := n / d
  let twice := 2 * (n % d)
  if twice < d ∨ (twice = d ∧ below % 2 = 0) then [⟨below, e⟩, ⟨below + 1, e⟩]
  else [⟨below + 1, e⟩, ⟨below, e⟩]

/-- The first decimal number with at least `count` digits, and fewer than `count + fuel`, that
reads back as a positive double of a given value. -/
def search (x : Double) (num den : Nat) : (fuel count : Nat) → Option Decimal
  | 0, _ => none
  | fuel + 1, count =>
    match (neighbours num den count).find? fun d => ofDecimal false d.digits d.exponent = x with
    | some d => some d
    | none => search x num den fuel (count + 1)

/-- The shortest decimal number that reads back as a positive double. -/
def shortest (m : Nat) (q : Int) : Decimal :=
  let (num, den) := scaleDown 2 m 1 (-q)
  (search (ofParts false m q) num den 17 1).getD ⟨m, q⟩

/-- The digits of a decimal number without zeros at the end, and the place of the decimal point
counted from their beginning. -/
def pointed (d : Decimal) : List Char × Int :=
  let digits := Nat.toDigits 10 d.digits
  ((digits.reverse.dropWhile (· = '0')).reverse, digits.length + d.exponent)

/-- An exponent with its sign and at least two digits. -/
def exponentText (e : Int) : List Char :=
  let digits := Nat.toDigits 10 e.natAbs
  'e' :: (if e < 0 then '-' else '+') :: (List.replicate (2 - digits.length) '0' ++ digits)

/-- Digits with a decimal point at a place counted from their beginning. -/
def layOut (digits : List Char) (point : Int) : List Char :=
  if -4 < point ∧ point ≤ 16 then
    if point ≤ 0 then '0' :: '.' :: (List.replicate (-point).toNat '0' ++ digits)
    else
      let whole := digits.take point.toNat
      let fraction := digits.drop point.toNat
      whole ++ List.replicate (point.toNat - whole.length) '0' ++
        '.' :: (if fraction.isEmpty then ['0'] else fraction)
  else
    let fraction := digits.drop 1
    digits.take 1 ++ (if fraction.isEmpty then [] else '.' :: fraction) ++ exponentText (point - 1)

/-- The text of a double. -/
def text : Double → List Char
  | .nan => ['n', 'a', 'n']
  | .infinity s => (if s then ['-'] else []) ++ ['i', 'n', 'f']
  | .finite s m q _ =>
    (if s then ['-'] else []) ++
      if m = 0 then ['0', '.', '0']
      else
        let (digits, point) := pointed (shortest m q)
        layOut digits point

end SqlCluster.Double
