import SqlCluster.Text.Split

/-!
Parts of a text and the text of parts. A text is its parts with the separator between them
(`intercalate_parts`), and parts without the separator are the parts of the text that they make
(`parts_intercalate`).
-/

namespace SqlCluster.Text

variable {sep c : Char} {s p : List Char}

theorem parts_eq_splitOn (sep : Char) (s : List Char) : parts sep s = s.splitOn sep := by
  induction s with
  | nil => rfl
  | cons c s ih =>
    rw [parts, List.splitOn_cons_eq_if_modifyHead, ih]
    by_cases hc : c = sep
    · simp [hc]
    · simp only [hc, if_false, beq_iff_eq]
      cases h : s.splitOn sep with
      | nil => exact absurd h (List.splitOn_ne_nil sep s)
      | cons p ps => rfl

theorem parts_ne_nil (sep : Char) (s : List Char) : parts sep s ≠ [] := by
  rw [parts_eq_splitOn]
  exact List.splitOn_ne_nil sep s

theorem intercalate_parts (sep : Char) (s : List Char) : [sep].intercalate (parts sep s) = s := by
  rw [parts_eq_splitOn, List.intercalate_splitOn]

theorem parts_intercalate {ps : List (List Char)} (hne : ps ≠ []) (h : ∀ p ∈ ps, sep ∉ p) :
    parts sep ([sep].intercalate ps) = ps := by
  rw [parts_eq_splitOn, List.splitOn_intercalate sep h hne]

theorem mem_intercalate {ps : List (List Char)} (h : c ∈ [sep].intercalate ps) :
    c = sep ∨ ∃ p ∈ ps, c ∈ p := by
  induction ps with
  | nil => simp at h
  | cons p ps ih =>
    cases ps with
    | nil => exact .inr ⟨p, by simp, by simpa using h⟩
    | cons q qs =>
      rw [List.intercalate_cons_cons, List.append_assoc, List.mem_append] at h
      obtain h | h := h
      · exact .inr ⟨p, by simp, h⟩
      · obtain h | h := List.mem_cons.1 h
        · exact .inl h
        · obtain h | ⟨r, hr, hc⟩ := ih h
          · exact .inl h
          · exact .inr ⟨r, List.mem_cons_of_mem _ hr, hc⟩

theorem mem_intercalate_of_mem {ps : List (List Char)} (hp : p ∈ ps) (hc : c ∈ p) :
    c ∈ [sep].intercalate ps := by
  induction ps with
  | nil => cases hp
  | cons q ps ih =>
    cases ps with
    | nil =>
      rw [List.mem_singleton] at hp
      subst hp
      simpa using hc
    | cons r ps =>
      rw [List.intercalate_cons_cons, List.append_assoc, List.mem_append]
      obtain rfl | hp := List.mem_cons.1 hp
      · exact .inl hc
      · exact .inr (List.mem_cons_of_mem _ (ih hp))

theorem mem_of_mem_parts (hp : p ∈ parts sep s) (hc : c ∈ p) : c ∈ s := by
  rw [← intercalate_parts sep s]
  exact mem_intercalate_of_mem hp hc

/-- A character of a text is the separator or stands in one of the parts. -/
theorem exists_part_of_mem (sep : Char) (h : c ∈ s) : c = sep ∨ ∃ p ∈ parts sep s, c ∈ p :=
  mem_intercalate (by rwa [intercalate_parts])

/-- Without the separator there is one part. -/
theorem parts_of_notMem (h : sep ∉ s) : parts sep s = [s] := by
  simpa using parts_intercalate (List.cons_ne_nil s []) (List.forall_mem_singleton.2 h)

end SqlCluster.Text
