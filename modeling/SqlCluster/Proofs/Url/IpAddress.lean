import SqlCluster.Proofs.Number.Numeral
import SqlCluster.Proofs.Result
import SqlCluster.Proofs.Text.Split
import SqlCluster.Url.IpAddress

/-!
Internet addresses as they are written. One of version 4 is written in one way only
(`text_of_bytes?`) and consists of digits and points, one of version 6 has a colon and consists of
hexadecimal digits, colons and points (`mem_of_groups?`).
-/

namespace SqlCluster.Url.IpAddress

open Text

variable {s : List Char} {c : Char}

theorem isDigit_of_byte? {n : Nat} (h : byte? s = some n) : ∀ c ∈ s, c.isDigit := by
  rw [byte?] at h
  split at h
  · cases h
  next hs => simp_all

/-- Without leading zeros a number has only one form. -/
theorem toDigits_of_byte? {n : Nat} (h : byte? s = some n) : Nat.toDigits 10 n = s := by
  have hdigits := isDigit_of_byte? h
  obtain ⟨hne, hhead, rfl⟩ : s ≠ [] ∧ (s.head? = some '0' → s.length ≤ 1) ∧
      n = Numeral.digitsValue s := by
    rw [byte?] at h
    split at h
    · cases h
    next hs =>
      simp only [not_or, not_and, Nat.not_lt] at hs
      dsimp only at h
      split at h
      · cases h
        exact ⟨by simpa using hs.1, hs.2.2.2, rfl⟩
      · cases h
  match s, hne with
  | [c], _ =>
    rw [Numeral.digitsValue_cons]
    simpa [Numeral.digitsValue, ofDigits] using Numeral.toDigits_of_isDigit (hdigits c (by simp))
  | c :: d :: s, _ =>
    have hzero : c ≠ '0' := by
      rintro rfl
      simpa using hhead rfl
    exact Numeral.Leads.toDigits_digitsValue ⟨hdigits, by simpa using hzero⟩

theorem text_of_bytes? {bytes : List Nat} (h : bytes? s = some bytes) : (v4 bytes).text = s := by
  simp only [bytes?] at h
  split at h
  · rw [text, map_of_mapM h fun p _ n hn => toDigits_of_byte? hn, intercalate_parts]
  · cases h

/-- An address of version 4 consists of digits and points. -/
theorem mem_of_bytes? {bytes : List Nat} (h : bytes? s = some bytes) :
    ∀ c ∈ s, c.isDigit ∨ c = '.' := by
  simp only [bytes?] at h
  split at h
  · intro c hc
    obtain rfl | ⟨p, hp, hc⟩ := exists_part_of_mem '.' hc
    · exact .inr rfl
    · obtain ⟨n, hn⟩ := exists_of_mem_mapM h hp
      exact .inl (isDigit_of_byte? hn c hc)
  · cases h

theorem hexValue?_of_group? {n : Nat} (h : group? s = some n) : ∀ c ∈ s, (hexValue? c).isSome := by
  rw [group?] at h
  split at h
  · cases h
  · obtain ⟨ds, hds, -⟩ := Option.map_eq_some_iff.1 h
    intro c hc
    obtain ⟨d, hd⟩ := exists_of_mem_mapM hds hc
    rw [hd]
    rfl

/-- The groups on a side of those left out are written in hexadecimal digits, or not at all. -/
theorem hexValue?_of_side? {outer : Option (List Char)} {ps : List (List Char)} {gs : List Nat}
    (h : side? outer ps = some gs) (houter : ∀ p, outer = some p → p ∈ ps) :
    ∀ p ∈ ps, ∀ c ∈ p, (hexValue? c).isSome := by
  intro p hp
  rw [side?] at h
  split at h
  next hempty =>
    split at h
    next hlength =>
      obtain ⟨q, rfl⟩ := List.length_eq_one_iff.1 hlength
      obtain rfl : [] = q := by simpa using houter _ hempty
      obtain rfl : p = [] := by simpa using hp
      nofun
    · cases h
  · obtain ⟨n, hn⟩ := exists_of_mem_mapM h hp
    exact hexValue?_of_group? hn

/-- Between the groups before and after those that are left out stands an empty one. -/
theorem eq_append_of_cutAtGap? {ps before behind : List (List Char)}
    (h : cutAtGap? ps = some (before, behind)) : ps = before ++ [] :: behind := by
  rw [cutAtGap?] at h
  split at h
  · cases h
  next i hi =>
    cases h
    obtain ⟨hlt, hempty, -⟩ := List.findIdx?_eq_some_iff_getElem.1 hi
    simp only [List.getElem_dropLast, List.getElem_drop, List.isEmpty_iff, Nat.add_comm 1] at hempty
    rw [← hempty, List.getElem_cons_drop, List.take_append_drop]

/-- All groups of an address of version 6 are written in hexadecimal digits, or not at all. -/
theorem exists_writtenGroups? {gs : List Nat} (h : groups? s = some gs) :
    ∃ ps, writtenGroups? s = some ps ∧ ∀ p ∈ ps, ∀ c ∈ p, (hexValue? c).isSome := by
  rw [groups?, Option.bind_eq_bind, Option.bind_eq_some_iff] at h
  obtain ⟨ps, hps, h⟩ := h
  refine ⟨ps, hps, ?_⟩
  split at h
  · cases h
  split at h
  · split at h
    · intro p hp
      obtain ⟨n, hn⟩ := exists_of_mem_mapM h hp
      exact hexValue?_of_group? hn
    · cases h
  next before behind hgap =>
    simp only [Option.bind_eq_bind, Option.bind_eq_some_iff] at h
    obtain ⟨high, hhigh, low, hlow, -⟩ := h
    rw [eq_append_of_cutAtGap? hgap]
    simp only [List.forall_mem_append, List.forall_mem_cons]
    exact ⟨hexValue?_of_side? hhigh fun _ => List.mem_of_head?, nofun,
      hexValue?_of_side? hlow fun _ => List.mem_of_getLast?⟩

/-- The last group may be an address of version 4, and all others are as they are written. -/
theorem mem_writtenGroups? {ps : List (List Char)} (h : writtenGroups? s = some ps) :
    ':' ∈ s ∧ ∀ p ∈ parts ':' s, p ∈ ps ∨ ∃ bytes, bytes? p = some bytes := by
  simp only [writtenGroups?] at h
  split at h
  · cases h
  next hlength =>
    refine ⟨Decidable.byContradiction fun hnone => hlength (by simp [parts_of_notMem hnone]),
      fun p hp => ?_⟩
    split at h
    · rw [Option.bind_eq_bind, Option.bind_eq_some_iff] at h
      obtain ⟨bytes, hbytes, h⟩ := h
      split at h
      · cases h
        rw [← List.dropLast_concat_getLast (parts_ne_nil ':' s)] at hp
        obtain hp | hp := List.mem_append.1 hp
        · exact .inl (List.mem_append_left _ hp)
        · rw [List.getLast?_eq_some_getLast (parts_ne_nil ':' s)] at hbytes
          rw [List.mem_singleton.1 hp]
          exact .inr ⟨_, hbytes⟩
      · cases h
    · cases h
      exact .inl hp

theorem isSome_hexValue?_of_isDigit (h : c.isDigit) : (hexValue? c).isSome := by
  rw [hexValue?, if_pos (isDigit_iff.1 h)]
  rfl

/-- An address of version 6 consists of hexadecimal digits, colons and points. -/
theorem mem_of_groups? {gs : List Nat} (h : groups? s = some gs) :
    ':' ∈ s ∧ ∀ c ∈ s, (hexValue? c).isSome ∨ c = ':' ∨ c = '.' := by
  obtain ⟨ps, hps, hhex⟩ := exists_writtenGroups? h
  obtain ⟨hcolon, hparts⟩ := mem_writtenGroups? hps
  refine ⟨hcolon, fun c hc => ?_⟩
  obtain rfl | ⟨p, hp, hc⟩ := exists_part_of_mem ':' hc
  · exact .inr (.inl rfl)
  obtain hp | ⟨bytes, hbytes⟩ := hparts p hp
  · exact .inl (hhex p hp c hc)
  · obtain hc | rfl := mem_of_bytes? hbytes c hc
    · exact .inl (isSome_hexValue?_of_isDigit hc)
    · exact .inr (.inr rfl)

/-- An address of version 6 has at least two colons. -/
theorem exists_colons {gs : List Nat} (h : groups? s = some gs) :
    ∃ a b d, s = a ++ ':' :: (b ++ ':' :: d) := by
  obtain ⟨ps, hps, -⟩ := exists_writtenGroups? h
  have hthree : ¬ (parts ':' s).length < 3 := by
    intro hfew
    simp only [writtenGroups?, if_pos hfew] at hps
    cases hps
  match hparts : parts ':' s with
  | [] | [_] | [_, _] => exact absurd (by simp [hparts]) hthree
  | a :: b :: d :: ds =>
    refine ⟨a, b, [':'].intercalate (d :: ds), ?_⟩
    rw [← intercalate_parts ':' s, hparts]
    simp only [List.intercalate_cons_cons, List.append_assoc, List.singleton_append]

theorem ofText?_eq_v4 {bytes : List Nat} (h : ofText? s = some (v4 bytes)) :
    bytes? s = some bytes := by
  rw [ofText?] at h
  split at h
  next hbytes =>
    cases h
    exact hbytes
  · obtain ⟨gs, -, h⟩ := Option.map_eq_some_iff.1 h
    cases h

theorem ofText?_eq_v6 {gs : List Nat} (h : ofText? s = some (v6 gs)) : groups? s = some gs := by
  rw [ofText?] at h
  split at h
  · cases h
  · obtain ⟨gs, hgs, h⟩ := Option.map_eq_some_iff.1 h
    cases h
    exact hgs

end SqlCluster.Url.IpAddress
