import SqlCluster.Text.Blank
import SqlCluster.Text.Digit
import SqlCluster.Text.Split

/-!
Blanks and digits. Trimming cuts off what is blank at either end and nothing else (`exists_trim`,
`trim_append`), and no digit of any script is a blank (`isBlank_of_decimalValue?`).
-/

namespace SqlCluster.Text

variable {p : Char → Bool} {before behind s : List Char} {c : Char} {d : Nat}

theorem notMem_of_forall (h : ∀ c ∈ s, p c) (hc : p c = false) : c ∉ s := by
  intro hmem
  rw [h c hmem] at hc
  cases hc

/-! ### Trimming -/

/-- A text begins and ends with characters that are outside a class. -/
structure IsTrimmed (p : Char → Bool) (s : List Char) : Prop where
  head : ∀ c ∈ s.head?, p c = false
  last : ∀ c ∈ s.getLast?, p c = false

theorem isTrimmed_of_forall (h : ∀ c ∈ s, p c = false) : IsTrimmed p s :=
  ⟨fun c hc => h c (List.mem_of_head? hc), fun c hc => h c (List.mem_of_getLast? hc)⟩

theorem trim_append (hs : IsTrimmed p s) (hne : s ≠ []) (hbefore : ∀ c ∈ before, p c)
    (hbehind : ∀ c ∈ behind, p c) : trim p (before ++ (s ++ behind)) = s := by
  have hhead : ∀ c ∈ (s ++ behind).head?, p c = false := by
    obtain ⟨c, t, rfl⟩ := List.exists_cons_of_ne_nil hne
    exact hs.head
  have hlast : ∀ c ∈ s.reverse.head?, p c = false := by
    rw [List.head?_reverse]
    exact hs.last
  rw [trim, dropWhile_append_eq hbefore hhead, trimRight, List.reverse_append,
    dropWhile_append_eq (by simpa using hbehind) hlast, List.reverse_reverse]

theorem head?_dropWhile (p : Char → Bool) (s : List Char) :
    ∀ c ∈ (s.dropWhile p).head?, p c = false := by
  intro c hc
  have hnot := List.head?_dropWhile_not p s
  rw [Option.mem_def.1 hc] at hnot
  simpa using hnot

theorem exists_trim (p : Char → Bool) (s : List Char) : ∃ before behind,
    s = before ++ (trim p s ++ behind) ∧ (∀ c ∈ before, p c) ∧ (∀ c ∈ behind, p c) ∧
      IsTrimmed p (trim p s) := by
  have hmiddle : s.dropWhile p = trim p s ++ ((s.dropWhile p).reverse.takeWhile p).reverse := by
    rw [trim, trimRight, ← List.reverse_append, List.takeWhile_append_dropWhile,
      List.reverse_reverse]
  refine ⟨s.takeWhile p, ((s.dropWhile p).reverse.takeWhile p).reverse, ?_, ?_, ?_, ?_, ?_⟩
  · rw [← hmiddle, List.takeWhile_append_dropWhile]
  · intro c hc
    exact List.all_eq_true.1 List.all_takeWhile c hc
  · intro c hc
    exact List.all_eq_true.1 List.all_takeWhile c (List.mem_reverse.1 hc)
  · intro c hc
    refine head?_dropWhile p s c ?_
    rw [hmiddle, List.head?_append, Option.mem_def.1 hc]
    rfl
  · rw [trim, trimRight, List.getLast?_reverse]
    exact head?_dropWhile p _

theorem mem_trim (h : c ∈ s) (hc : p c = false) : c ∈ trim p s := by
  obtain ⟨before, behind, hs, hbefore, hbehind, -⟩ := exists_trim p s
  rw [hs] at h
  rcases List.mem_append.1 h with h | h
  · rw [hbefore c h] at hc
    cases hc
  · rcases List.mem_append.1 h with h | h
    · exact h
    · rw [hbehind c h] at hc
      cases hc

/-- Trimming comes to the same before and after the characters are changed. -/
theorem trim_map (p : Char → Bool) (f : Char → Char) (s : List Char) :
    trim p (s.map f) = (trim (p ∘ f) s).map f := by
  simp only [trim, trimRight, List.dropWhile_map, ← List.map_reverse]

/-! ### Digits -/

theorem decimalValue?_eq_some (h : decimalValue? c = some d) :
    (c.isDigit ∧ d = c.toNat - 48) ∨
      128 ≤ c.toNat ∧ ∃ z ∈ scriptZeros, c.toNat = z + d ∧ d < 10 := by
  rw [decimalValue?] at h
  split at h
  next hdigit =>
    cases h
    exact .inl ⟨isDigit_iff.2 hdigit, rfl⟩
  split at h
  · cases h
  next hbeyond =>
    obtain ⟨z, hz, rfl⟩ := Option.map_eq_some_iff.1 h
    have hrange := List.find?_some hz
    simp only [decide_eq_true_eq] at hrange
    exact .inr ⟨by omega, z, List.mem_of_find?_eq_some hz, by omega, by omega⟩

/-- No digit of any script is a blank. -/
theorem isBlank_of_decimalValue? (h : decimalValue? c = some d) : isBlank c = false := by
  have hzeros : ∀ z ∈ scriptZeros, z + 10 ≤ 0x85 ∨ (0xa0 < z ∧ z + 10 ≤ 0x1680) ∨
      (0x1680 < z ∧ z + 10 ≤ 0x2000) ∨ 0x3000 < z := by
    decide
  simp only [isBlank, Bool.or_eq_false_iff, Bool.and_eq_false_iff, decide_eq_false_iff_not,
    beq_eq_false_iff_ne]
  obtain ⟨hdigit, -⟩ | ⟨hbeyond, z, hz, hc, hd⟩ := decimalValue?_eq_some h
  · have := toNat_of_isDigit hdigit
    omega
  · have := hzeros z hz
    omega

end SqlCluster.Text
