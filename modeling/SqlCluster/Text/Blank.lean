/-!
Blank characters: those that trimming removes and that separate words, in every script. The zero
width space is not one of them.
-/

namespace SqlCluster.Text

/-- Whether a character is a blank. -/
def isBlank (c : Char) : Bool :=
  let n := c.toNat
  (9 ≤ n && n ≤ 13) || (0x1c ≤ n && n ≤ 0x20) || n == 0x85 || n == 0xa0 || n == 0x1680 ||
    (0x2000 ≤ n && n ≤ 0x200a) || n == 0x2028 || n == 0x2029 || n == 0x202f || n == 0x205f ||
    n == 0x3000

/-- Whether a character is a blank of ASCII proper: a space, a tab or a line or page break. -/
def isAsciiBlank (c : Char) : Bool :=
  let n := c.toNat
  (9 ≤ n && n ≤ 13) || n == 0x20

/-- The text without the characters of a class at its end. -/
def trimRight (p : Char → Bool) (s : List Char) : List Char := (s.reverse.dropWhile p).reverse

/-- The text without the characters of a class at either end. -/
def trim (p : Char → Bool) (s : List Char) : List Char := trimRight p (s.dropWhile p)

theorem trim_eq_self {p : Char → Bool} {s : List Char} (h : ∀ c ∈ s, p c = false) :
    trim p s = s := by
  have hleft : ∀ t : List Char, (∀ c ∈ t, p c = false) → t.dropWhile p = t := by
    rintro (_ | ⟨c, t⟩) ht
    · rfl
    · simp [ht c (by simp)]
  rw [trim, hleft s h, trimRight, hleft _ (by simpa using h), List.reverse_reverse]

end SqlCluster.Text
