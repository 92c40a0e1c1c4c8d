/-!
Cutting a text in two at a separator, from the left or from the right, and into all its parts.
What is cut off loses nothing: `eq_append_of_cutFirst?` and `eq_append_of_cutLast?` put the parts
together again.
-/

namespace SqlCluster.Text

/-- The parts before and after the first occurrence of a separator. -/
def cutFirst? (sep : Char) : List Char → Option (List Char × List Char)
  | [] => none
  | c :: s => if c = sep then some ([], s) else (cutFirst? sep s).map fun (a, b) => (c :: a, b)

/-- The parts before and after the last occurrence of a separator. -/
def cutLast? (sep : Char) : List Char → Option (List Char × List Char)
  | [] => none
  | c :: s =>
    match cutLast? sep s with
    | some (a, b) => some (c :: a, b)
    | none => if c = sep then some ([], s) else none

/-- All parts between the occurrences of a separator; there is always at least one. -/
def parts (sep : Char) : List Char → List (List Char)
  | [] => [[]]
  | c :: s =>
    if c = sep then [] :: parts sep s
    else match parts sep s with
      | [] => [[c]]
      | p :: ps => (c :: p) :: ps

theorem cutFirst?_eq_none {sep : Char} {s : List Char} : cutFirst? sep s = none ↔ sep ∉ s := by
  induction s with
  | nil => simp [cutFirst?]
  | cons c s ih =>
    rw [cutFirst?, List.mem_cons, not_or]
    split
    · next h => simp [h]
    · next h => rw [Option.map_eq_none_iff, ih]; exact ⟨fun n => ⟨fun e => h e.symm, n⟩, And.right⟩

theorem cutFirst?_append {sep : Char} {a b : List Char} (h : sep ∉ a) :
    cutFirst? sep (a ++ sep :: b) = some (a, b) := by
  induction a with
  | nil => simp [cutFirst?]
  | cons c a ih =>
    simp only [List.mem_cons, not_or] at h
    simp [cutFirst?, ih h.2, Ne.symm h.1]

theorem eq_append_of_cutFirst? {sep : Char} {s a b : List Char}
    (h : cutFirst? sep s = some (a, b)) : s = a ++ sep :: b ∧ sep ∉ a := by
  induction s generalizing a with
  | nil => simp [cutFirst?] at h
  | cons c s ih =>
    rw [cutFirst?] at h
    split at h
    · simp only [Option.some.injEq, Prod.mk.injEq] at h
      obtain ⟨rfl, rfl⟩ := h
      simp_all
    · simp only [Option.map_eq_some_iff, Prod.exists, Prod.mk.injEq] at h
      obtain ⟨x, y, hxy, rfl, rfl⟩ := h
      have := ih hxy
      simp_all [eq_comm]

theorem cutLast?_eq_none {sep : Char} {s : List Char} : cutLast? sep s = none ↔ sep ∉ s := by
  induction s with
  | nil => simp [cutLast?]
  | cons c s ih =>
    rw [cutLast?, List.mem_cons, not_or]
    split
    · next h => simp_all
    · next h =>
      split
      · next e => simp [e]
      · next e => exact ⟨fun _ => ⟨fun n => e n.symm, ih.1 h⟩, fun _ => rfl⟩

theorem cutLast?_append {sep : Char} {a b : List Char} (h : sep ∉ b) :
    cutLast? sep (a ++ sep :: b) = some (a, b) := by
  induction a with
  | nil => simp [cutLast?, cutLast?_eq_none.2 h]
  | cons c a ih => simp [cutLast?, ih]

theorem eq_append_of_cutLast? {sep : Char} {s a b : List Char}
    (h : cutLast? sep s = some (a, b)) : s = a ++ sep :: b ∧ sep ∉ b := by
  induction s generalizing a with
  | nil => simp [cutLast?] at h
  | cons c s ih =>
    rw [cutLast?] at h
    split at h
    · next x y hxy =>
      simp only [Option.some.injEq, Prod.mk.injEq] at h
      obtain ⟨rfl, rfl⟩ := h
      have := ih hxy
      simp_all
    · next hn =>
      split at h
      · simp only [Option.some.injEq, Prod.mk.injEq] at h
        obtain ⟨rfl, rfl⟩ := h
        exact ⟨by simp_all, cutLast?_eq_none.1 hn⟩
      · simp at h

/-- What is cut off behind a separator does not depend on what stands in front of it. -/
theorem exists_cutLast?_append (sep : Char) (b : List Char) :
    ∃ x y, ∀ a, cutLast? sep (a ++ sep :: b) = some (a ++ x, y) := by
  cases hb : cutLast? sep (sep :: b) with
  | none => exact absurd List.mem_cons_self (cutLast?_eq_none.1 hb)
  | some xy =>
    obtain ⟨heq, hy⟩ := eq_append_of_cutLast? (a := xy.1) (b := xy.2) hb
    refine ⟨xy.1, xy.2, fun a => ?_⟩
    rw [heq, ← List.append_assoc, cutLast?_append hy]

/-! ### Where a class of characters ends -/

theorem takeWhile_append_eq {p : Char → Bool} {a b : List Char} (ha : ∀ c ∈ a, p c)
    (hb : ∀ c ∈ b.head?, p c = false) : (a ++ b).takeWhile p = a := by
  rw [List.takeWhile_append_of_pos ha]
  cases b with
  | nil => simp
  | cons c b => simp [hb c rfl]

theorem dropWhile_append_eq {p : Char → Bool} {a b : List Char} (ha : ∀ c ∈ a, p c)
    (hb : ∀ c ∈ b.head?, p c = false) : (a ++ b).dropWhile p = b := by
  rw [List.dropWhile_append_of_pos ha]
  cases b with
  | nil => rfl
  | cons c b => simp [hb c rfl]

end SqlCluster.Text
