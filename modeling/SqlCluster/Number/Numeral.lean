import SqlCluster.Number.Double
import SqlCluster.Text.Blank
import SqlCluster.Text.Digit

/-!
Numbers written as text by people: blanks around, digits of any script, single underscores between
digits. An integer may have at most `digitLimit` digits, its leading zeros counted.
-/

namespace SqlCluster.Numeral

open Text

/-- The most digits that an integer is read from or written with. -/
def digitLimit : Nat := 4300

/-- What is said of an integer that is too long to be written. -/
def tooLongToWrite : String := "Exceeds the limit (4300 digits) for integer string conversion"

/-- What is said of a numeral with too many digits. -/
def tooLongToRead (digits : Nat) : String :=
  tooLongToWrite ++ ": value has " ++ digits.repr ++
    " digits; use sys.set_int_max_str_digits() to increase the limit"

/-- Whether an integer is short enough to be written. -/
def isWritable (n : Int) : Bool := n.natAbs < Nat.pow 10 digitLimit

/-- A character with a digit of another script put as the ASCII digit and a blank as the space. -/
def plainChar (c : Char) : Char :=
  if c.toNat < 128 then c
  else if isBlank c then ' '
  else match decimalValue? c with
    | some d => Nat.digitChar d
    | none => '?'

/-- A text in ASCII, without the blanks around it. -/
def plain (s : List Char) : List Char := trim isAsciiBlank (s.map plainChar)

/-- The sign of a numeral, true for minus, and the rest of it. -/
def cutSign : List Char → Bool × List Char
  | '-' :: s => (true, s)
  | '+' :: s => (false, s)
  | s => (false, s)

/-- A numeral without its underscores, if each stands between two digits. -/
def withoutUnderscores? (last : Option Char) : List Char → Option (List Char)
  | [] => if last = some '_' then none else some []
  | c :: s =>
    if c = '_' then
      if last.any Char.isDigit then withoutUnderscores? (some c) s else none
    else if last = some '_' ∧ !c.isDigit then none
    else (withoutUnderscores? (some c) s).map (c :: ·)

/-- The number that ASCII digits denote. -/
def digitsValue (digits : List Char) : Nat := ofDigits 10 (digits.map fun c => c.toNat - 48)

/-- Reads an integer. -/
def readInt? (s : List Char) : Option Int := do
  let (negative, body) := cutSign (plain s)
  let digits ← withoutUnderscores? none body
  if digits.isEmpty || !digits.all Char.isDigit || digitLimit < digits.length then none
  else some (Double.signed negative (digitsValue digits))

/-- The value of a numeral with whole digits, fraction digits and an exponent. -/
def decimalValue (negative : Bool) (whole fraction : List Char) (exponent : Int) : Double :=
  Double.ofDecimal negative (digitsValue (whole ++ fraction)) (exponent - fraction.length)

/-- Reads the exponent at the end of a numeral; none at all counts as zero. -/
def readExponent? : List Char → Option Int
  | [] => some 0
  | c :: s =>
    if c = 'e' ∨ c = 'E' then
      let (negative, digits) := cutSign s
      if digits.isEmpty || !digits.all Char.isDigit then none
      else some (Double.signed negative (digitsValue digits))
    else none

/-- Reads a numeral without sign: digits with at most one point among or around them, then perhaps
an exponent. -/
def readDecimal? (negative : Bool) (s : List Char) : Option Double :=
  let whole := s.takeWhile Char.isDigit
  let rest := s.dropWhile Char.isDigit
  let (fraction, rest) := match rest with
    | '.' :: r => (r.takeWhile Char.isDigit, r.dropWhile Char.isDigit)
    | r => ([], r)
  if whole.isEmpty && fraction.isEmpty then none
  else (readExponent? rest).map fun e => decimalValue negative whole fraction e

/-- Reads a floating point number, also by the words for infinity and for what is not a number. -/
def readDouble? (s : List Char) : Option Double := do
  let body ← withoutUnderscores? none (plain s)
  let (negative, body) := cutSign body
  let word := String.ofList (body.map Char.toLower)
  if word = "inf" ∨ word = "infinity" then some (.infinity negative)
  else if word = "nan" then some .nan
  else readDecimal? negative body

end SqlCluster.Numeral
