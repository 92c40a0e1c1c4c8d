import SqlCluster.Text.Digit
import SqlCluster.Text.Split

/-!
Sets of characters given by ranges of code points. A table is a text of ranges in hexadecimal,
`first-last` or a single number, with blanks between them.
-/

namespace SqlCluster.Text

/-- A set of characters as ranges of code points, both ends included. -/
structure CharSet where
  ranges : List (Nat × Nat)

/-- The words of a table: its longest stretches without a space or a line break. -/
def tableWords (s : String) : List (List Char) :=
  (parts ' ' (s.toList.map fun c => if c = '\n' then ' ' else c)).filter fun w => !w.isEmpty

/-- The number that a word of hexadecimal digits denotes. -/
def hexWord (w : List Char) : Nat := ofDigits 16 (w.filterMap hexValue?)

namespace CharSet

/-- Reads one range of a table. -/
def range (w : List Char) : Nat × Nat :=
  match cutFirst? '-' w with
  | some (a, b) => (hexWord a, hexWord b)
  | none => (hexWord w, hexWord w)

/-- Reads a table of ranges. -/
def ofTable (s : String) : CharSet := ⟨(tableWords s).map range⟩

/-- Whether a character is in the set. -/
def contains (set : CharSet) (c : Char) : Bool :=
  set.ranges.any fun (a, b) => a ≤ c.toNat && c.toNat ≤ b

end CharSet

end SqlCluster.Text
