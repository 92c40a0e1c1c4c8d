import SqlCluster.Text.Decomposition

/-!
Normal forms of text. Characters are taken apart, their marks are put in the order of their classes,
and letters and marks are put together again as far as there are characters for them. Two texts that
differ only in what is composed, or in the order of marks, have the same normal form.
-/

namespace SqlCluster.Text

/-- Puts a character in front of a text, behind the marks at its beginning that go before it. -/
def insertMark (c : Char) : List Char → List Char
  | [] => [c]
  | d :: s =>
    if markClass d ≠ 0 ∧ markClass d < markClass c then d :: insertMark c s else c :: d :: s

/-- A text with the marks on each letter in the order of their classes. -/
def orderMarks (s : List Char) : List Char := s.foldr insertMark []

/-- The character composed of a letter and marks, or these themselves. -/
def restore (base : List Char) : List Char := ((composite? base).map ([·])).getD base

/-- Puts letters and marks together. The base is what the last letter has been joined with so far,
and the marks that stand between it and the rest, last first, are those that could not be joined. A
mark is joined only if the marks between have lower classes. -/
def joinMarks (base between : List Char) : List Char → List Char
  | [] => restore base ++ between.reverse
  | c :: s =>
    if between.head?.all (markClass · < markClass c) ∧ (composite? (base ++ [c])).isSome then
      joinMarks (base ++ [c]) between s
    else if markClass c = 0 then restore base ++ between.reverse ++ joinMarks [c] [] s
    else joinMarks base (c :: between) s

/-- A text whose characters have been taken apart in some way and put together again. -/
def recompose (form : Char → List Char) (s : List Char) : List Char :=
  joinMarks [] [] (orderMarks (s.flatMap form))

/-- The normal form of a text. -/
def composed (s : List Char) : List Char :=
  if s.all fun c => c.toNat < 128 then s else recompose canonicalForm s

/-- The normal form of a text in which characters give way to what they stand for. -/
def compatible (s : List Char) : List Char :=
  if s.all fun c => c.toNat < 128 then s else recompose compatibleForm s

end SqlCluster.Text
