import SqlCluster.Text.Fold
import SqlCluster.Text.Normal
import SqlCluster.Url.HostName.Label
import SqlCluster.Url.HostName.Letter
import SqlCluster.Url.Punycode

/-!
The strict reading of host names beyond ASCII. A name is folded to one case and put into normal
form, and then each of its labels must consist of letters, marks and digits, with hyphens between
them.
-/

namespace SqlCluster.Url.HostName.Strict

open Text

/-- The characters that a name is read without. -/
def ignored : CharSet := CharSet.ofTable "
ad 34f 115f-1160 17b4-17b5 180b-180f 200b 2060-2064 206a-206f 3164 fe00-fe0f feff ffa0 1bca0-1bca3
1d173-1d17a e0100-e01ef"

/-- Letters that are not prepared by folding: the sharp s and the final sigma stay what they are. -/
def ownForms : CharMap := CharMap.ofTable "df:df 3c2:3c2 1e9e:df"

/-- The prepared form of a character, if names may hold it. Characters that stand for a full stop
among others, such as a number in a list, have none. -/
def form? (c : Char) : Option (List Char) :=
  if c.toNat < 128 then some [c.toLower]
  else if isFullStop c then some ['.']
  else if ignored.contains c then some []
  else match ownForms.find? c with
    | some s => some s
    | none =>
      let s := compatible ((compatible (foldChar c)).flatMap foldChar)
      if s.contains '.' then none else some s

/-- Whether all characters of a label may stand where they do; the part before is given nearest
character first. -/
def areInPlace (label before : List Char) : List Char → Bool
  | [] => true
  | c :: s =>
    ((isLetter c && form? c == some [c]) || fitsContext label before c s) &&
      areInPlace label (c :: before) s

/-- Whether a text is a label. -/
def isLabel (s : List Char) : Bool :=
  !s.isEmpty && s.length ≤ 254 && composed s == s &&
    s.head? != some '-' && s.getLast? != some '-' && (s.drop 2).take 2 != ['-', '-'] &&
    !s.head?.any combiningMarks.contains && areInPlace s [] s &&
    Direction.areSound (s.map Direction.ofChar)

/-- The text of a label in ASCII form. -/
def decodeLabel? (s : List Char) : Option (List Char) :=
  let s := s.map Char.toLower
  let text? :=
    if mark.isPrefixOf s then
      let digits := s.drop mark.length
      if digits.isEmpty ∨ digits.getLast? = some '-' then none else Punycode.decode? digits
    else some s
  text?.filter isLabel

/-- The ASCII form of a prepared label. -/
def encodeLabel? (s : List Char) : Option (List Char) :=
  let form := if isAscii s then s else mark ++ Punycode.encode s
  let sound := if isAscii s then (decodeLabel? s).isSome else isLabel s
  if sound ∧ fits form then some form else none

/-- The prepared form of a name. -/
def prepare? (s : List Char) : Option (List Char) :=
  if 1024 < s.length then none else (s.mapM form?).map fun forms => composed forms.flatten

/-- The ASCII form of a name. -/
def encode? (s : List Char) : Option (List Char) := do
  let name ← prepare? s
  if 254 < name.length then none else (mapLabels? encodeLabel? name).filter nameFits

/-- The text of a name in ASCII form. -/
def decode? (s : List Char) : Option (List Char) :=
  if 254 < s.length then none else mapLabels? decodeLabel? s

end SqlCluster.Url.HostName.Strict
