import SqlCluster.Text.CharSet

/-!
Maps from characters to texts, given by tables. A table is a text of words `source:target` with
blanks between them. The source is a range of code points as in a set of characters, and the target
is the code points of the text with commas between them, all in hexadecimal. Along a range the first
code point of the target advances with the source, and the others stay.
-/

namespace SqlCluster.Text

/-- The texts of the characters from `first` to `last`: each begins with a character of its own,
from `target` on, and goes on with the same `rest`. -/
structure CharMapRun where
  first : Nat
  last : Nat
  target : Nat
  rest : List Nat

/-- A map from characters to texts. -/
structure CharMap where
  runs : List CharMapRun

namespace CharMapRun

/-- Reads a word of a table. -/
def ofWord (w : List Char) : CharMapRun :=
  let (source, target) := (cutFirst? ':' w).getD (w, w)
  let (first, last) := CharSet.range source
  let points := (parts ',' target).map hexWord
  ⟨first, last, points.headD first, points.drop 1⟩

/-- The text that a run gives to a character. -/
def find? (r : CharMapRun) (c : Char) : Option (List Char) :=
  if r.first ≤ c.toNat ∧ c.toNat ≤ r.last then
    some (((r.target + (c.toNat - r.first)) :: r.rest).map Char.ofNat)
  else none

/-- The character to which a run gives a text. -/
def source? (r : CharMapRun) : List Char → Option Char
  | [] => none
  | c :: s =>
    let step := c.toNat - r.target
    if r.target ≤ c.toNat ∧ step ≤ r.last - r.first ∧ s.map Char.toNat = r.rest then
      some (Char.ofNat (r.first + step))
    else none

end CharMapRun

namespace CharMap

/-- Reads a table. -/
def ofTable (s : String) : CharMap := ⟨(tableWords s).map CharMapRun.ofWord⟩

/-- The text of a character, if it has one. -/
def find? (m : CharMap) (c : Char) : Option (List Char) := m.runs.findSome? fun r => r.find? c

/-- The first character with a text. -/
def source? (m : CharMap) (s : List Char) : Option Char := m.runs.findSome? fun r => r.source? s

end CharMap

end SqlCluster.Text
