import SqlCluster.Proofs.Url.Character
import SqlCluster.Proofs.Url.Punycode

/-!
Host names that are read from their ASCII form. A name is read label by label, and a label that is
marked as Punycode is never read as a name of ASCII letters: something beyond them is inserted
(`HostName.exists_isInserted`). So a name in lower case is its own text exactly if none of its
labels is marked, or if it looks like an address (`Host.decode?_eq_self_iff`).
-/

namespace SqlCluster.Url

open Text Punycode

variable {s t label : List Char} {c : Char}

namespace HostName

/-! ### Labels -/

section
variable {f : List Char → Option (List Char)}

/-- The labels of a name that is changed label by label: an empty one behind the last full stop is
none of them. -/
theorem exists_labels (h : mapLabels? f s = some t) : ∃ labels read : List (List Char),
    labels.mapM f = some read ∧ (∀ label ∈ labels, label ∈ parts '.' s) ∧
    (∀ label ∈ parts '.' s, label ≠ [] → label ∈ labels) ∧
    (t = ['.'].intercalate read ∨ t = ['.'].intercalate (read ++ [[]])) := by
  simp only [mapLabels?] at h
  split at h
  next hroot =>
    obtain ⟨read, hread, rfl⟩ := Option.map_eq_some_iff.1 h
    refine ⟨_, read, hread, fun label hl => List.dropLast_subset _ hl, fun label hl hne => ?_,
      .inr rfl⟩
    have hlast : (parts '.' s).getLast (parts_ne_nil '.' s) = [] :=
      (List.getLast_eq_iff_getLast?_eq_some _).2 hroot.2
    rw [← List.dropLast_concat_getLast (parts_ne_nil '.' s), hlast] at hl
    rcases List.mem_append.1 hl with hl | hl
    · exact hl
    · exact absurd (List.mem_singleton.1 hl) hne
  · obtain ⟨read, hread, rfl⟩ := Option.map_eq_some_iff.1 h
    exact ⟨_, read, hread, fun label hl => hl, fun label hl _ => hl, .inl rfl⟩

theorem mem_of_mapLabels? (h : mapLabels? f s = some t) (hc : c ∈ t) :
    c = '.' ∨ ∃ label ∈ parts '.' s, ∃ l, f label = some l ∧ c ∈ l := by
  obtain ⟨labels, read, hread, hlabels, -, ht⟩ := exists_labels h
  have hmem : c = '.' ∨ ∃ l ∈ read, c ∈ l := by
    rcases ht with rfl | rfl
    · exact mem_intercalate hc
    · rcases mem_intercalate hc with hdot | ⟨l, hl, hc⟩
      · exact .inl hdot
      · rcases List.mem_append.1 hl with hl | hl
        · exact .inr ⟨l, hl, hc⟩
        · rw [List.mem_singleton.1 hl] at hc
          cases hc
  refine hmem.imp_right fun ⟨l, hl, hc⟩ => ?_
  obtain ⟨label, hlabel, hf⟩ := mem_of_mapM hread hl
  exact ⟨label, hlabels label hlabel, l, hf, hc⟩

theorem exists_of_mapLabels? (h : mapLabels? f s = some t) (hl : label ∈ parts '.' s)
    (hne : label ≠ []) : ∃ l, f label = some l ∧ ∀ c ∈ l, c ∈ t := by
  obtain ⟨labels, read, hread, -, hlabels, ht⟩ := exists_labels h
  obtain ⟨l, hmem, hf⟩ := exists_mem_of_mapM hread (hlabels label hl hne)
  refine ⟨l, hf, fun c hc => ?_⟩
  rcases ht with rfl | rfl
  · exact mem_intercalate_of_mem hmem hc
  · exact mem_intercalate_of_mem (List.mem_append_left _ hmem) hc

end

/-! ### The strict reading -/

namespace Strict

theorem mem_of_decodeLabel? (h : decodeLabel? s = some t) (hc : c ∈ t) :
    c ∈ s.map Char.toLower ∨ IsInserted c := by
  obtain ⟨h, -⟩ := Option.filter_eq_some_iff.1 h
  dsimp only at h
  split at h
  · split at h
    · cases h
    · exact (mem_of_decode? h hc).imp_left fun hc => List.mem_of_mem_drop hc
  · cases h
    exact .inl hc

theorem exists_isInserted (h : decodeLabel? s = some t) (hmark : mark <+: s.map Char.toLower) :
    ∃ c ∈ t, IsInserted c := by
  obtain ⟨h, -⟩ := Option.filter_eq_some_iff.1 h
  rw [if_pos (List.isPrefixOf_iff_prefix.2 hmark)] at h
  dsimp only at h
  split at h
  · cases h
  next hdigits =>
    simp only [List.isEmpty_iff, not_or] at hdigits
    exact Punycode.exists_isInserted h hdigits.1 hdigits.2

theorem ne_nil (h : decodeLabel? s = some t) : t ≠ [] := by
  obtain ⟨-, hlabel⟩ := Option.filter_eq_some_iff.1 h
  rintro rfl
  exact absurd hlabel (by decide)

end Strict

/-! ### The lenient reading -/

namespace Lenient

theorem mem_of_decodeLabel? (h : decodeLabel? s = some t) (hc : c ∈ t) :
    c ∈ s ∨ IsInserted c := by
  rw [decodeLabel?] at h
  split at h
  · obtain ⟨text, htext, h⟩ := Option.bind_eq_some_iff.1 h
    obtain ⟨-, rfl⟩ : _ ∧ text = t := by simpa using h
    exact (mem_of_decode? htext hc).imp_left fun hc => List.mem_of_mem_drop hc
  · cases h
    exact .inl hc

/-- A label that has nothing to insert is the form of no text, since that of an ASCII text is the
text itself, without a mark. -/
theorem exists_isInserted (h : decodeLabel? s = some t) (hmark : mark <+: s) :
    ∃ c ∈ t, IsInserted c := by
  rw [decodeLabel?, if_pos (List.isPrefixOf_iff_prefix.2 hmark)] at h
  obtain ⟨text, htext, h⟩ := Option.bind_eq_some_iff.1 h
  obtain ⟨hform, rfl⟩ : encodeLabel? text = some (s.map Char.toLower) ∧ text = t := by simpa using h
  by_cases hlast : (s.drop mark.length).getLast? = some '-' ∨ s.drop mark.length = []
  · rw [decode?_of_last hlast, Option.some.injEq] at htext
    have hshort : text.length ≠ (s.map Char.toLower).length := by
      have hlength : 4 ≤ s.length := hmark.length_le
      rw [← htext, List.length_dropLast, List.length_drop, List.length_map]
      omega
    have hascii : isAscii text = false := by
      refine Bool.eq_false_iff.2 fun hascii => ?_
      rw [encodeLabel?, if_pos hascii] at hform
      obtain ⟨-, heq⟩ : _ ∧ text = s.map Char.toLower := by simpa using hform
      exact hshort (congrArg List.length heq)
    obtain ⟨c, hc, hbeyond⟩ : ∃ c ∈ text, 128 ≤ c.toNat := by simpa [isAscii] using hascii
    exact ⟨c, hc, .inr hbeyond⟩
  · rw [not_or] at hlast
    exact Punycode.exists_isInserted htext hlast.2 hlast.1

theorem ne_nil (h : decodeLabel? s = some t) (hne : s ≠ []) : t ≠ [] := by
  by_cases hmark : mark <+: s
  · obtain ⟨c, hc, -⟩ := exists_isInserted h hmark
    exact List.ne_nil_of_mem hc
  · rw [decodeLabel?, if_neg (mt List.isPrefixOf_iff_prefix.1 hmark)] at h
    cases h
    exact hne

end Lenient

/-! ### Names -/

/-- The characters of a name that is read are those of its ASCII form, characters of names, and
inserted ones. -/
theorem mem_of_ofAscii? (h : ofAscii? s = some t) (hc : c ∈ t) :
    c ∈ s ∨ isNameChar c ∨ IsInserted c := by
  have hpart {label : List Char} (hl : label ∈ parts '.' s) (h : c ∈ label ∨ IsInserted c) :
      c ∈ s ∨ isNameChar c ∨ IsInserted c :=
    h.imp (mem_of_mem_parts hl) .inr
  rw [ofAscii?, Option.orElse_eq_orElse, Option.orElse_eq_or, Option.or_eq_some_iff] at h
  rcases h with h | ⟨-, h⟩
  · obtain ⟨-, h⟩ := Option.ite_none_left_eq_some.1 h
    rcases mem_of_mapLabels? h hc with rfl | ⟨label, hl, l, hread, hc⟩
    · exact .inr (.inl (by decide))
    · rcases Strict.mem_of_decodeLabel? hread hc with hc | hc
      · rcases mem_of_mem_map_toLower hc with hc | hc
        · exact hpart hl (.inl hc)
        · exact .inr (.inl hc)
      · exact hpart hl (.inr hc)
  · rcases mem_of_mapLabels? h hc with rfl | ⟨label, hl, l, hread, hc⟩
    · exact .inr (.inl (by decide))
    · exact hpart hl (Lenient.mem_of_decodeLabel? hread hc)

theorem not_isInserted (h : isNameChar c) : ¬ IsInserted c := by
  intro hinserted
  rcases hinserted with rfl | hbeyond
  · exact absurd h (by decide)
  · exact absurd (toNat_lt_of_isNameChar h) (Nat.not_lt.2 hbeyond)

/-- Each label of a name is read, strictly or leniently, as a part of its text. -/
theorem exists_of_ofAscii? (h : ofAscii? s = some t) (hl : label ∈ parts '.' s) (hne : label ≠ []) :
    ∃ l, (Strict.decodeLabel? label = some l ∨ Lenient.decodeLabel? label = some l) ∧
      ∀ c ∈ l, c ∈ t := by
  rw [ofAscii?, Option.orElse_eq_orElse, Option.orElse_eq_or, Option.or_eq_some_iff] at h
  rcases h with h | ⟨-, h⟩
  · obtain ⟨-, h⟩ := Option.ite_none_left_eq_some.1 h
    obtain ⟨l, hread, hsub⟩ := exists_of_mapLabels? h hl hne
    exact ⟨l, .inl hread, hsub⟩
  · obtain ⟨l, hread, hsub⟩ := exists_of_mapLabels? h hl hne
    exact ⟨l, .inr hread, hsub⟩

/-- In a name that is read from one with a label in Punycode something is inserted. -/
theorem exists_isInserted (h : ofAscii? s = some t) (hlower : s.map Char.toLower = s)
    (hl : label ∈ parts '.' s) (hmark : mark <+: label) : ∃ c ∈ t, IsInserted c := by
  have hne : label ≠ [] :=
    List.ne_nil_of_length_pos (Nat.lt_of_lt_of_le (by decide) hmark.length_le)
  have hlabel : label.map Char.toLower = label :=
    map_toLower_eq_self.2 fun c hc => map_toLower_eq_self.1 hlower c (mem_of_mem_parts hl hc)
  obtain ⟨l, hread, hsub⟩ := exists_of_ofAscii? h hl hne
  have hinserted : ∃ c ∈ l, IsInserted c := by
    rcases hread with hread | hread
    · exact Strict.exists_isInserted hread (by rwa [hlabel])
    · exact Lenient.exists_isInserted hread hmark
  obtain ⟨c, hc, hinserted⟩ := hinserted
  exact ⟨c, hsub c hc, hinserted⟩

/-- A name with something other than full stops is read as no empty text. -/
theorem ne_nil_of_ofAscii? (h : ofAscii? s = some t) (hc : c ∈ s) (hdot : c ≠ '.') : t ≠ [] := by
  rcases exists_part_of_mem '.' hc with hc | ⟨label, hl, hc⟩
  · exact absurd hc hdot
  · have hne : label ≠ [] := List.ne_nil_of_mem hc
    obtain ⟨l, hread, hsub⟩ := exists_of_ofAscii? h hl hne
    have hread : l ≠ [] := by
      rcases hread with hread | hread
      · exact Strict.ne_nil hread
      · exact Lenient.ne_nil hread hne
    obtain ⟨d, hd⟩ := List.exists_mem_of_ne_nil l hread
    exact List.ne_nil_of_mem (hsub d hd)

end HostName

namespace Host

theorem mem_of_mem_zoneText (h : c ∈ zoneText s) : c ∈ s := by
  rw [zoneText] at h
  split at h
  next ip zone hcut =>
    obtain ⟨rfl, -⟩ := eq_append_of_cutFirst? hcut
    split at h
    · rcases List.mem_append.1 h with h | h
      · exact List.mem_append_left _ h
      · rcases List.mem_cons.1 h with rfl | h
        · simp
        · simp [h]
    · exact h
  · exact h

/-- The characters of a host as text are those of its form in a URL, characters of names, and
inserted ones. -/
theorem mem_of_decode? (h : decode? s = some t) (hc : c ∈ t) :
    c ∈ s ∨ HostName.isNameChar c ∨ IsInserted c := by
  rw [decode?] at h
  split at h
  · cases h
    exact .inl (mem_of_mem_zoneText hc)
  · exact HostName.mem_of_ofAscii? h hc

/-- A name in lower case is read as a name only if that is the name itself, and then it looks like
an address or none of its labels is in Punycode. -/
theorem decode?_eq_some_iff (hne : s ≠ []) (hlower : s.map Char.toLower = s)
    (hs : ∀ c ∈ s, HostName.isNameChar c) (ht : ∀ c ∈ t, HostName.isNameChar c) :
    decode? s = some t ↔
      t = s ∧ (looksNumeric s ∨ ∀ label ∈ parts '.' s, ¬ HostName.mark <+: label) := by
  have hcolon : ':' ∉ s := notMem_of_forall hs (by decide)
  by_cases hnumeric : looksNumeric s
  · rw [decode?, if_pos hnumeric, zoneText_eq hcolon, Option.some.injEq, eq_comm]
    exact (and_iff_left (.inl hnumeric)).symm
  · by_cases hunmarked : ∀ label ∈ parts '.' s, ¬ HostName.mark <+: label
    · rw [(IsNamed.mk hne (isName_of_forall hs) hlower hunmarked).decode?_eq, Option.some.injEq,
        eq_comm]
      exact (and_iff_left (.inr hunmarked)).symm
    · refine iff_of_false (fun h => ?_) fun h => h.2.elim hnumeric hunmarked
      rw [decode?, if_neg hnumeric] at h
      obtain ⟨label, hl, hmark⟩ : ∃ label ∈ parts '.' s, HostName.mark <+: label := by
        simpa using hunmarked
      obtain ⟨c, hc, hinserted⟩ := HostName.exists_isInserted h hlower hl hmark
      exact HostName.not_isInserted (ht c hc) hinserted

theorem ne_nil_of_decode? (h : decode? s = some t) (hcolon : ':' ∉ s) (hc : c ∈ s)
    (hdot : c ≠ '.') : t ≠ [] := by
  rw [decode?] at h
  split at h
  · rw [zoneText_eq hcolon] at h
    cases h
    exact List.ne_nil_of_mem hc
  · exact HostName.ne_nil_of_ofAscii? h hc hdot

end Host

end SqlCluster.Url
