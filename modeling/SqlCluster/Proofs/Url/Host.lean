import SqlCluster.Proofs.Url.IpAddress
import SqlCluster.Proofs.Url.Percent
import SqlCluster.Url

/-!
Hosts that stay what they are. A name in lower case without a label in Punycode, or an address in
its compressed form (`Host.IsPlain`), is written in a URL as it is, apart from brackets, and is read
back from there (`Host.IsPlain.isKept`).
-/

namespace SqlCluster.Url

open Text

variable {s t p : List Char} {c : Char}

/-! ### Characters -/

/-- A fact about the characters of ASCII is one about 128 characters. -/
theorem forall_ascii {p : Char → Prop} (h : ∀ n < 128, p (Char.ofNat n)) (hc : c.toNat < 128) :
    p c := by
  have := h c.toNat hc
  rwa [Char.ofNat_toNat] at this

theorem isNameChar_iff : HostName.isNameChar c ↔
    isAlphanumeric c ∨ c ∈ "-._~!$&'()*+,;=".toList := by
  simp [HostName.isNameChar]

theorem isNameChar_of_isDigit (h : c.isDigit) : HostName.isNameChar c := by
  have := toNat_of_isDigit h
  exact isNameChar_iff.2 (.inl (isAlphanumeric_iff.2 (by omega)))

theorem toLower_of_isDigit (h : c.isDigit) : c.toLower = c :=
  forall_ascii (p := fun c => c.isDigit → c.toLower = c) (by decide)
    (Nat.lt_of_le_of_lt (toNat_of_isDigit h).2 (by decide)) h

theorem toNat_lt_of_isNameChar (h : HostName.isNameChar c) : c.toNat < 128 := by
  have hsigns : ∀ c ∈ "-._~!$&'()*+,;=".toList, c.toNat < 128 := by simp
  obtain h | h := isNameChar_iff.1 h
  · exact (isAlphanumeric_standAlone h).1
  · exact hsigns c h

theorem map_toLower_eq_self : s.map Char.toLower = s ↔ ∀ c ∈ s, c.toLower = c := by
  simpa using List.map_inj_left (l := s) (f := Char.toLower) (g := id)

/-! ### Names -/

namespace HostName

/-- An empty label behind the last full stop is put back where it was. -/
theorem intercalate_labels (h : (parts '.' s).getLast? = some []) :
    ['.'].intercalate ((parts '.' s).dropLast ++ [[]]) = s := by
  have hsplit := List.dropLast_concat_getLast (parts_ne_nil '.' s)
  rw [(List.getLast_eq_iff_getLast?_eq_some (parts_ne_nil '.' s)).2 h] at hsplit
  rw [hsplit, intercalate_parts]

theorem eq_of_mapLabels? {f : List Char → Option (List Char)}
    (hf : ∀ label ∈ parts '.' s, ∀ t, f label = some t → t = label)
    (h : mapLabels? f s = some t) : t = s := by
  have hread {labels read : List (List Char)} (h : labels.mapM f = some read)
      (hf : ∀ label ∈ labels, ∀ t, f label = some t → t = label) : read = labels := by
    simpa using map_of_mapM (f := id) h hf
  simp only [mapLabels?] at h
  split at h
  next hroot =>
    obtain ⟨labels, hlabels, rfl⟩ := Option.map_eq_some_iff.1 h
    rw [hread hlabels fun label hl => hf label (List.dropLast_subset _ hl),
      intercalate_labels hroot.2]
  · obtain ⟨labels, hlabels, rfl⟩ := Option.map_eq_some_iff.1 h
    rw [hread hlabels hf, intercalate_parts]

theorem mapLabels?_eq_self {f : List Char → Option (List Char)}
    (hf : ∀ label ∈ parts '.' s, f label = some label) : mapLabels? f s = some s := by
  have hread {labels : List (List Char)} (h : ∀ label ∈ labels, f label = some label) :
      labels.mapM f = some labels := by
    simpa using mapM_map_eq_some (f := id) h
  simp only [mapLabels?]
  split
  next hroot =>
    rw [hread fun label hl => hf label (List.dropLast_subset _ hl), Option.map_some,
      intercalate_labels hroot.2]
  · rw [hread hf, Option.map_some, intercalate_parts]

end HostName

namespace Host

/-- A name in lower case that has no label in Punycode. -/
structure IsNamed (s : List Char) : Prop where
  nonempty : s ≠ []
  name : isName s
  lower : s.map Char.toLower = s
  unmarked : ∀ label ∈ parts '.' s, ¬ HostName.mark <+: label

/-- A host that is written as it is: a name, or an address in its compressed form. -/
def IsPlain (s : List Char) : Prop :=
  IsNamed s ∨ ∃ ip, IpAddress.ofText? s = some ip ∧ ip.text = s

theorem mem_of_isName (h : isName s) : ∀ c ∈ s, HostName.isNameChar c ∨ c = '%' := by
  induction s with
  | nil => nofun
  | cons c s ih =>
    simp only [isName, Bool.and_eq_true, Bool.or_eq_true, beq_iff_eq] at h
    exact List.forall_mem_cons.2 ⟨h.1.imp id And.left, ih h.2⟩

theorem isName_of_forall (h : ∀ c ∈ s, HostName.isNameChar c) : isName s := by
  induction s with
  | nil => rfl
  | cons c s ih =>
    simp only [List.forall_mem_cons] at h
    simp [isName, h.1, ih h.2]

theorem IsNamed.colon_notMem (h : IsNamed s) : ':' ∉ s := fun hc =>
  absurd (mem_of_isName h.name ':' hc) (by decide)

theorem v4_of_notMem (hcolon : ':' ∉ s) {ip : IpAddress} (h : IpAddress.ofText? s = some ip) :
    ∃ bytes, ip = .v4 bytes ∧ ip.text = s := by
  cases ip with
  | v4 bytes => exact ⟨bytes, rfl, IpAddress.text_of_bytes? (IpAddress.ofText?_eq_v4 h)⟩
  | v6 groups => exact absurd (IpAddress.mem_of_groups? (IpAddress.ofText?_eq_v6 h)).1 hcolon

/-- A name that is an address is one in its compressed form. -/
theorem eq_of_address? (hcolon : ':' ∉ s) (h : address? s = some t) : t = s := by
  rw [address?] at h
  split at h
  · split at h
    next ip zone hcut =>
      split at hcut
      next hzone =>
        cases hcut
        obtain ⟨rfl, -⟩ := eq_append_of_cutFirst? hzone
        obtain ⟨x, hx, rfl⟩ := Option.map_eq_some_iff.1 h
        obtain ⟨bytes, rfl, htext⟩ := v4_of_notMem (by simp_all) hx
        simp only [htext]
      · cases hcut
        obtain ⟨x, hx, rfl⟩ := Option.map_eq_some_iff.1 h
        obtain ⟨bytes, rfl, htext⟩ := v4_of_notMem hcolon hx
        simp only [htext, List.append_nil]
  · cases h

/-- Without a colon there is no zone. -/
theorem zoneText_eq (hcolon : ':' ∉ s) : zoneText s = s := by
  rw [zoneText]
  split
  next ip zone hcut =>
    obtain ⟨rfl, -⟩ := eq_append_of_cutFirst? hcut
    rw [if_neg]
    simp_all
  · rfl

theorem IsNamed.encode?_eq (h : IsNamed s) (checked : Bool) : encode? checked s = some s := by
  have hascii : HostName.isAscii s := by
    refine List.all_eq_true.2 fun c hc => decide_eq_true ?_
    obtain hc | rfl := mem_of_isName h.name c hc
    · exact toNat_lt_of_isNameChar hc
    · decide
  rw [encode?]
  split
  next t ht => rw [eq_of_address? h.colon_notMem ht]
  · rw [if_pos hascii, h.lower]
    simp [h.name]

/-- The strict reading of a name leaves it as it is, if it does not refuse it, and the lenient one
refuses none without Punycode. -/
theorem IsNamed.decode?_eq (h : IsNamed s) : decode? s = some s := by
  have hmark (label : List Char) (hl : label ∈ parts '.' s) :
      HostName.mark.isPrefixOf label = false :=
    Bool.eq_false_iff.2 fun hp => h.unmarked label hl (List.isPrefixOf_iff_prefix.1 hp)
  have hlower (label : List Char) (hl : label ∈ parts '.' s) : label.map Char.toLower = label :=
    map_toLower_eq_self.2 fun c hc => map_toLower_eq_self.1 h.lower c (mem_of_mem_parts hl hc)
  have hstrict (t : List Char) (ht : HostName.Strict.decode? s = some t) : t = s := by
    rw [HostName.Strict.decode?] at ht
    split at ht
    · cases ht
    · refine HostName.eq_of_mapLabels? (fun label hl t ht => ?_) ht
      rw [HostName.Strict.decodeLabel?, hlower label hl, hmark label hl] at ht
      exact (Option.some.inj (Option.filter_eq_some_iff.1 ht).1).symm
  have hlenient : HostName.Lenient.decode? s = some s :=
    HostName.mapLabels?_eq_self fun label hl => by
      rw [HostName.Lenient.decodeLabel?, hmark label hl]
      rfl
  rw [decode?]
  split
  · rw [zoneText_eq h.colon_notMem]
  · rw [HostName.ofAscii?, hlenient]
    cases ht : HostName.Strict.decode? s with
    | none => rfl
    | some t => rw [hstrict t ht]; rfl

/-- A host that URLs keep as it is: it is written as it is, apart from brackets, and it is read as
what is written. -/
structure IsKept (s : List Char) : Prop where
  nonempty : s ≠ []
  chars : ∀ c ∈ s, HostName.isNameChar c ∨ c = '%' ∨ c = ':'
  encode : ∀ checked, encode? checked s = some (Authority.written s)
  decode : decode? s = some s
  bracketable : ':' ∈ s → isBracketable s

theorem IsNamed.isKept (h : IsNamed s) : IsKept s where
  nonempty := h.nonempty
  chars c hc := (mem_of_isName h.name c hc).imp_right .inl
  encode checked := by
    rw [h.encode?_eq, Authority.written, if_neg (by simpa using h.colon_notMem)]
  decode := h.decode?_eq
  bracketable hc := absurd hc h.colon_notMem

/-- An address of version 4 is a name like others. -/
theorem isNamed_of_bytes? {bytes : List Nat} (h : IpAddress.bytes? s = some bytes) :
    IsNamed s := by
  have hchars := IpAddress.mem_of_bytes? h
  refine ⟨?_, ?_, ?_, fun label hl hmark => ?_⟩
  · rintro rfl
    cases h
  · refine isName_of_forall fun c hc => ?_
    obtain hc | rfl := hchars c hc
    · exact isNameChar_of_isDigit hc
    · decide
  · refine map_toLower_eq_self.2 fun c hc => ?_
    obtain hc | rfl := hchars c hc
    · exact toLower_of_isDigit hc
    · rfl
  · have hx : 'x' ∈ s := mem_of_mem_parts hl (hmark.subset (by decide))
    exact absurd (hchars 'x' hx) (by decide)

theorem isNameChar_of_hexValue? (h : (hexValue? c).isSome) : HostName.isNameChar c := by
  refine isNameChar_iff.2 (.inl (isAlphanumeric_iff.2 ?_))
  rw [hexValue?] at h
  split at h
  next hc =>
    have : 48 ≤ c.toNat ∧ c.toNat ≤ 57 := hc
    omega
  split at h
  next hc =>
    have : 97 ≤ c.toNat ∧ c.toNat ≤ 102 := hc
    omega
  split at h
  next hc =>
    have : 65 ≤ c.toNat ∧ c.toNat ≤ 70 := hc
    omega
  · cases h

/-- The characters of an address of version 6, and that it may stand in brackets. -/
theorem isBracketable_of_groups? {groups : List Nat}
    (h : IpAddress.ofText? s = some (.v6 groups)) :
    ':' ∈ s ∧ (∀ c ∈ s, HostName.isNameChar c ∨ c = ':') ∧ isBracketable s := by
  obtain ⟨hcolon, hchars⟩ := IpAddress.mem_of_groups? (IpAddress.ofText?_eq_v6 h)
  refine ⟨hcolon, fun c hc => ?_, ?_⟩
  · obtain hc | rfl | rfl := hchars c hc
    · exact .inl (isNameChar_of_hexValue? hc)
    · exact .inr rfl
    · exact .inl (by decide)
  · have hv : s.head? ≠ some 'v' := fun hv => by
      exact absurd (hchars 'v' (List.mem_of_head? hv)) (by decide)
    have hzone : '%' ∉ s := fun hc => absurd (hchars '%' hc) (by decide)
    rw [isBracketable, if_neg hv, cutAt, cutFirst?_eq_none.2 hzone]
    simp only [Option.getD_none, h]

theorem isKept_of_groups? {groups : List Nat} (h : IpAddress.ofText? s = some (.v6 groups))
    (htext : (IpAddress.v6 groups).text = s) : IsKept s := by
  obtain ⟨hcolon, hchars, hbracketable⟩ := isBracketable_of_groups? h
  have hzone : cutFirst? '%' s = none := cutFirst?_eq_none.2 fun hc =>
    absurd (hchars '%' hc) (by decide)
  have hnumeric : looksNumeric s := by
    rw [looksNumeric, List.contains_iff_mem.2 hcolon, Bool.or_true]
  have haddress : address? s = some (Authority.written s) := by
    rw [address?, if_pos hnumeric, hzone]
    simp only [h, Option.map_some, htext, Authority.written]
    rw [if_pos (List.contains_iff_mem.2 hcolon), List.append_nil]
  exact {
    nonempty := List.ne_nil_of_mem hcolon
    chars := fun c hc => (hchars c hc).imp_right .inr
    encode := fun checked => by rw [encode?, haddress]
    decode := by rw [decode?, if_pos hnumeric, zoneText, hzone]
    bracketable := fun _ => hbracketable }

theorem IsPlain.isKept (h : IsPlain s) : IsKept s := by
  obtain h | ⟨ip, hip, htext⟩ := h
  · exact h.isKept
  · cases ip with
    | v4 bytes => exact (isNamed_of_bytes? (IpAddress.ofText?_eq_v4 hip)).isKept
    | v6 groups => exact isKept_of_groups? hip htext

end Host

end SqlCluster.Url
