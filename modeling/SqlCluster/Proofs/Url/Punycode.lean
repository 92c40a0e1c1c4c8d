import SqlCluster.Proofs.Result
import SqlCluster.Url.Punycode

/-!
Text that is read from Punycode. It consists of what stands in front of the last hyphen and of
characters that are inserted there (`mem_of_decode?`), and none of these is an ordinary one of ASCII
(`IsInserted`). Something is inserted wherever something stands behind the last hyphen
(`exists_isInserted`).
-/

namespace SqlCluster.Url.Punycode

variable {s t basic : List Char} {c : Char} {r r' : Reader} {n : Nat}

/-- A character that can be inserted: one beyond ASCII, or the null character, which stands for the
code points that are no characters. -/
def IsInserted (c : Char) : Prop := c = Char.ofNat 0 ∨ 128 ≤ c.toNat

theorem isInserted_ofNat (h : 128 ≤ n) : IsInserted (Char.ofNat n) := by
  by_cases hvalid : n.isValidChar
  · have hchar : Char.ofNat n = Char.ofNatAux n hvalid := dif_pos hvalid
    rw [hchar]
    exact .inr h
  · exact .inl (dif_neg hvalid)

/-- What is so of a reader of a text with some basic characters. -/
structure Reader.IsSound (basic : List Char) (r : Reader) : Prop where
  digitPlace : 1 ≤ r.digitPlace
  point : 128 ≤ r.point
  chars : ∀ c ∈ r.text, c ∈ basic ∨ IsInserted c
  inserted : r.first = false → ∃ c ∈ r.text, IsInserted c

theorem Reader.IsSound.insert (h : r.IsSound basic) (hs : r.insert n = some r') :
    r'.IsSound basic ∧ r'.first = false := by
  simp only [Reader.insert] at hs
  split at hs
  · cases hs
    have hpoint : 128 ≤ r.point + (r.place + n) / (r.text.length + 1) :=
      Nat.le_trans h.point (Nat.le_add_right _ _)
    have hinserted := isInserted_ofNat hpoint
    refine ⟨⟨Nat.le_refl 1, hpoint, fun c hc => ?_, fun _ => ⟨_, by simp, hinserted⟩⟩, rfl⟩
    rcases List.mem_append.1 hc with hc | hc
    · exact h.chars c (List.mem_of_mem_take hc)
    · rcases List.mem_cons.1 hc with rfl | hc
      · exact .inr hinserted
      · exact h.chars c (List.mem_of_mem_drop hc)
  · cases hs

/-- A digit ends a number, and then a character is inserted, or another digit must follow. -/
theorem Reader.IsSound.step (h : r.IsSound basic) (hs : r.step c = some r') :
    r'.IsSound basic ∧ (r'.first = false ∨ 1 < r'.digitPlace) := by
  rw [Reader.step] at hs
  obtain ⟨d, -, hs⟩ := Option.bind_eq_some_iff.1 hs
  dsimp only at hs
  split at hs
  · exact (h.insert hs).imp_right .inl
  · cases hs
    have hplace : 1 < r.digitPlace + 1 := Nat.lt_succ_of_le h.digitPlace
    exact ⟨⟨Nat.le_of_lt hplace, h.point, h.chars, h.inserted⟩, .inr hplace⟩


/-- A text is read by a sound reader, which has inserted something if it has read a digit. -/
theorem exists_isSound (h : decode? s = some t) : ∃ r : Reader, r.IsSound (cutBasic s).1 ∧
    r.text = t ∧ ((cutBasic s).2 ≠ [] → r.first = false) := by
  unfold decode? at h
  generalize cutBasic s = cut at h ⊢
  obtain ⟨basic, rest⟩ := cut
  obtain ⟨r, hread, h⟩ := Option.bind_eq_some_iff.1 h
  obtain ⟨hend, htext⟩ : r.digitPlace = 1 ∧ r.text = t := by simpa using h
  have hstart : Reader.IsSound basic ⟨basic, true, 128, 0, 72, 1, 1, 0⟩ :=
    ⟨Nat.le_refl 1, Nat.le_refl 128, fun c hc => .inl hc, nofun⟩
  refine ⟨r, foldlM_invariant (fun _ _ _ h hs => (h.step hs).1) hstart hread, htext, fun hne => ?_⟩
  -- the first digit begins a number, and at the end of the text no number is left unfinished
  obtain ⟨c, cs, rfl⟩ := List.exists_cons_of_ne_nil hne
  rw [List.foldlM_cons] at hread
  obtain ⟨r₁, hfirst, hread⟩ := Option.bind_eq_some_iff.1 hread
  have hbegun : r.first = false ∨ 1 < r.digitPlace :=
    (foldlM_invariant (p := fun r => r.IsSound basic ∧ (r.first = false ∨ 1 < r.digitPlace))
      (fun _ _ _ h hs => h.1.step hs) (hstart.step hfirst) hread).2
  rcases hbegun with h | h
  · exact h
  · omega

theorem mem_of_mem_cutBasic (h : c ∈ (cutBasic s).1) : c ∈ s :=
  List.mem_of_mem_take (List.dropLast_subset _ h)

/-- The characters of a text that is read are those in front of its last hyphen and inserted
ones. -/
theorem mem_of_decode? (h : decode? s = some t) (hc : c ∈ t) : c ∈ s ∨ IsInserted c := by
  obtain ⟨r, hr, rfl, -⟩ := exists_isSound h
  exact (hr.chars c hc).imp_left mem_of_mem_cutBasic

theorem cutBasic_snd_ne_nil (hne : s ≠ []) (hlast : s.getLast? ≠ some '-') :
    (cutBasic s).2 ≠ [] := by
  obtain ⟨c, hc⟩ := Option.ne_none_iff_exists'.1 (mt List.getLast?_eq_none_iff.1 hne)
  obtain ⟨init, rfl⟩ := List.getLast?_eq_some_iff.1 hc
  have hmark : c ≠ '-' := by
    rintro rfl
    exact hlast hc
  simp [cutBasic, hmark]

/-- Something is inserted wherever something stands behind the last hyphen. -/
theorem exists_isInserted (h : decode? s = some t) (hne : s ≠ []) (hlast : s.getLast? ≠ some '-') :
    ∃ c ∈ t, IsInserted c := by
  obtain ⟨r, hr, rfl, hfirst⟩ := exists_isSound h
  exact hr.inserted (hfirst (cutBasic_snd_ne_nil hne hlast))

/-- Where nothing stands behind the last hyphen, the text is what stands in front of it. -/
theorem decode?_of_last (h : s.getLast? = some '-' ∨ s = []) : decode? s = some s.dropLast := by
  have hcut : cutBasic s = (s.dropLast, []) := by
    rcases h with h | rfl
    · obtain ⟨init, rfl⟩ := List.getLast?_eq_some_iff.1 h
      have hall : (init ++ ['-']).take (init.length + 1) = init ++ ['-'] :=
        List.take_of_length_le (by simp)
      simp [cutBasic, hall]
    · rfl
  rw [decode?, hcut]
  rfl

end SqlCluster.Url.Punycode
