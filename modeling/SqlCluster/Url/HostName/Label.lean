import SqlCluster.Text.Split

/-!
Labels of host names: the parts between full stops. The last label of a name may be empty, which
stands for the root of all names.
-/

namespace SqlCluster.Url.HostName

open Text

/-- What stands in front of a label that is written in Punycode. -/
def mark : List Char := ['x', 'n', '-', '-']

/-- Whether a text is in ASCII. -/
def isAscii (s : List Char) : Bool := s.all fun c => c.toNat < 128

/-- Whether a label has a length that it may have in ASCII. -/
def fits (label : List Char) : Bool := !label.isEmpty && label.length ≤ 63

/-- Whether a name has a length that it may have, the root aside. -/
def nameFits (s : List Char) : Bool := s.length ≤ if s.getLast? = some '.' then 254 else 253

/-- Whether a character is a full stop of any script that divides names into labels. -/
def isFullStop (c : Char) : Bool :=
  c == '.' || c == Char.ofNat 0x3002 || c == Char.ofNat 0xff0e || c == Char.ofNat 0xff61

/-- A name whose labels are changed one by one. An empty label behind the last full stop stays. -/
def mapLabels? (f : List Char → Option (List Char)) (s : List Char) : Option (List Char) :=
  let labels := parts '.' s
  if 1 < labels.length ∧ labels.getLast? = some [] then
    (labels.dropLast.mapM f).map fun ls => ['.'].intercalate (ls ++ [[]])
  else (labels.mapM f).map (['.'].intercalate ·)

end SqlCluster.Url.HostName
