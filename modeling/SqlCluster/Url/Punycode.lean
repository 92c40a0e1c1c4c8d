/-!
Punycode: text of every script in ASCII letters, digits and hyphens. The ASCII characters come
first. Behind the last hyphen stand, for each other character in the order of the code points, the
number of steps from the one before it through all places and code points where it might have been
put, as a number in base 36 whose digits end where one falls below a threshold.
-/

namespace SqlCluster.Url.Punycode

/-- The digit of a value below 36. -/
def digit (n : Nat) : Char := if n < 26 then Char.ofNat (97 + n) else Char.ofNat (22 + n)

/-- The value of a digit of either case. -/
def digitValue? (c : Char) : Option Nat :=
  if 'a' ≤ c ∧ c ≤ 'z' then some (c.toNat - 97)
  else if 'A' ≤ c ∧ c ≤ 'Z' then some (c.toNat - 65)
  else if '0' ≤ c ∧ c ≤ '9' then some (c.toNat - 22)
  else none

/-- The threshold of a digit at a place, the first being 1, under a bias. -/
def threshold (place bias : Nat) : Nat := max 1 (min 26 (36 * place - bias))

/-- The bias that follows from a reduced number of steps. -/
def biasFor (steps offset : Nat) : Nat :=
  if 455 < steps then biasFor (steps / 35) (offset + 36)
  else offset + 36 * steps / (steps + 38)
termination_by steps

/-- The bias behind a number of steps to the character that makes a text so long. -/
def adapt (steps length : Nat) (first : Bool) : Nat :=
  let reduced := if first then steps / 700 else steps / 2
  biasFor (reduced + reduced / length) 0

/-- A number from a place on. -/
def writeNumber (bias place n : Nat) : List Char :=
  let t := threshold place bias
  if h : n < t then [digit n]
  else digit (t + (n - t) % (36 - t)) :: writeNumber bias (place + 1) ((n - t) / (36 - t))
termination_by n
decreasing_by
  have : 1 ≤ t := by simp only [t, threshold]; omega
  exact Nat.lt_of_le_of_lt (Nat.div_le_self _ _) (by omega)

/-- What has been written, and the state of the walk through places and code points. -/
structure Writer where
  written : List Char
  steps : Nat
  bias : Nat
  handled : Nat

/-- Passes one character of the text at a code point. -/
def Writer.pass (basic point : Nat) (w : Writer) (c : Char) : Writer :=
  if c.toNat < point then { w with steps := w.steps + 1 }
  else if c.toNat = point then
    { written := w.written ++ writeNumber w.bias 1 w.steps
      steps := 0
      bias := adapt w.steps (w.handled + 1) (w.handled = basic)
      handled := w.handled + 1 }
  else w

/-- Walks through the code points of a text from one on. -/
def walk (text : List Char) (basic : Nat) : (from_ : Nat) → List Nat → Writer → Writer
  | _, [], w => w
  | from_, point :: points, w =>
    let w := { w with steps := w.steps + (point - from_) * (w.handled + 1) }
    let w := text.foldl (Writer.pass basic point) w
    walk text basic (point + 1) points { w with steps := w.steps + 1 }

/-- Writes a text. -/
def encode (text : List Char) : List Char :=
  let ascii := text.filter fun c => c.toNat < 128
  let points := ((text.map Char.toNat).filter (128 ≤ ·)).mergeSort.eraseDups
  let w := walk text ascii.length 128 points ⟨[], 0, 72, ascii.length⟩
  ascii ++ (if ascii.isEmpty then [] else ['-']) ++ w.written

/-- The text read so far, and the state of the number that is being read. -/
structure Reader where
  text : List Char
  first : Bool
  point : Nat
  place : Nat
  bias : Nat
  digitPlace : Nat
  weight : Nat
  steps : Nat

/-- Puts the character that a number of steps leads to into its place. -/
def Reader.insert (r : Reader) (steps : Nat) : Option Reader :=
  let length := r.text.length + 1
  let point := r.point + (r.place + steps) / length
  let place := (r.place + steps) % length
  if point < 0x110000 then
    some
      { text := r.text.take place ++ Char.ofNat point :: r.text.drop place
        first := false
        point := point
        place := place + 1
        bias := adapt steps length r.first
        digitPlace := 1
        weight := 1
        steps := 0 }
  else none

/-- Reads one digit. -/
def Reader.step (r : Reader) (c : Char) : Option Reader := do
  let d ← digitValue? c
  let steps := r.steps + d * r.weight
  let t := threshold r.digitPlace r.bias
  if d < t then r.insert steps
  else
    some { r with steps := steps, weight := r.weight * (36 - t), digitPlace := r.digitPlace + 1 }

/-- The parts before and behind the last hyphen; without one, all is behind it. -/
def cutBasic (s : List Char) : List Char × List Char :=
  let behind := (s.reverse.takeWhile (· ≠ '-')).reverse
  ((s.take (s.length - behind.length)).dropLast, behind)

/-- Reads a text. -/
def decode? (s : List Char) : Option (List Char) := do
  let (ascii, rest) := cutBasic s
  let r ← rest.foldlM Reader.step ⟨ascii, true, 128, 0, 72, 1, 1, 0⟩
  if r.digitPlace = 1 then some r.text else none

end SqlCluster.Url.Punycode
