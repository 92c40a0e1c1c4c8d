import SqlCluster.Proofs.Peer.Usable
import SqlCluster.Proofs.Url.Host

/-!
Written authorities and back. The credentials of an authority end at its last `@`
(`Authority.ofText?_credentials_append`), so an authority that is written in the characters of names
and escapes (`Authority.IsPlain`) is cut into the parts that it was written from
(`Authority.IsPlain.ofText?_text`). Where its credentials are quoted and its host is one that URLs
keep, it is read as it was (`Authority.IsPlain.readAuthority?_text`).
-/

namespace SqlCluster.Url

open Text

variable {s host rest : List Char} {c : Char}

/-- The characters that authorities are written with. -/
def isAuthorityChar (c : Char) : Bool := HostName.isNameChar c || "%:@[]".toList.contains c

theorem isAuthorityChar_iff :
    isAuthorityChar c ↔ HostName.isNameChar c ∨ c ∈ ['%', ':', '@', '[', ']'] := by
  simp [isAuthorityChar]

/-- The characters of authorities are visible, end no authority, and are not such that readers
refuse them. -/
theorem isAuthorityChar_spec (h : isAuthorityChar c) :
    0x20 < c.toNat ∧ endsAuthority c = false ∧ forbiddenSigns.contains c = false ∧
      hiddenDelimiters.contains c = false := by
  have hascii : c.toNat < 128 := by
    obtain h | h := isAuthorityChar_iff.1 h
    · exact toNat_lt_of_isNameChar h
    · have hmarks : ∀ c ∈ ['%', ':', '@', '[', ']'], c.toNat < 128 := by simp
      exact hmarks c h
  refine forall_ascii (p := fun c => isAuthorityChar c → 0x20 < c.toNat ∧ endsAuthority c = false ∧
    forbiddenSigns.contains c = false ∧ hiddenDelimiters.contains c = false) ?_ hascii h
  decide +kernel

namespace Authority

variable {a : Authority}

/-! ### Credentials -/

/-- The user and the password of credentials, as they are cut from an authority. -/
theorem credentials_cases (huser : ∀ u ∈ a.user, u ≠ [] ∧ ':' ∉ u) :
    a.credentials = [] ∧ a.user = none ∧ a.password = none ∨
      (∃ u, a.credentials = u ++ ['@'] ∧ ':' ∉ u ∧ a.user = nonempty? u ∧ a.password = none) ∨
      ∃ u p, a.credentials = (u ++ ':' :: p) ++ ['@'] ∧ ':' ∉ u ∧ a.user = nonempty? u ∧
        a.password = some p := by
  obtain ⟨user, password, host, port⟩ := a
  cases user with
  | none =>
    cases password with
    | none => exact .inl ⟨rfl, rfl, rfl⟩
    | some p => exact .inr (.inr ⟨[], p, rfl, List.not_mem_nil, rfl, rfl⟩)
  | some u =>
    obtain ⟨hne, hcolon⟩ := huser u rfl
    have hu : some u = nonempty? u := by rw [nonempty?, if_neg (by simpa using hne)]
    cases password with
    | none => exact .inr (.inl ⟨u, by simp [credentials, hne], hcolon, hu, rfl⟩)
    | some p => exact .inr (.inr ⟨u, p, rfl, hcolon, hu, rfl⟩)

/-- The credentials of an authority end at its last `@`, and their first colon ends the user. -/
theorem ofText?_credentials_append (huser : ∀ u ∈ a.user, u ≠ [] ∧ ':' ∉ u) (hrest : '@' ∉ rest) :
    ofText? (a.credentials ++ rest) =
      (port? (cutPort rest).2).map fun port => ⟨a.user, a.password, (cutPort rest).1, port⟩ := by
  rw [ofText?]
  obtain ⟨h, hu, hp⟩ | ⟨u, h, hcolon, hu, hp⟩ | ⟨u, p, h, hcolon, hu, hp⟩ := credentials_cases huser
  · rw [h, hu, hp, List.nil_append, cutLast?_eq_none.2 hrest]
    exact Option.map_eq_bind.symm
  · rw [h, hu, hp, List.append_assoc, List.singleton_append, cutLast?_append hrest]
    simp only [cutFirst?_eq_none.2 hcolon]
    exact Option.map_eq_bind.symm
  · rw [h, hu, hp, List.append_assoc, List.singleton_append, cutLast?_append hrest]
    simp only [cutFirst?_append hcolon]
    exact Option.map_eq_bind.symm

theorem place_credentials_append (huser : ∀ u ∈ a.user, u ≠ [] ∧ ':' ∉ u) (hrest : '@' ∉ rest) :
    place (a.credentials ++ rest) = rest := by
  rw [place]
  obtain ⟨h, -⟩ | ⟨u, h, -⟩ | ⟨u, p, h, -⟩ := credentials_cases huser
  · rw [h, List.nil_append, cutLast?_eq_none.2 hrest]
    rfl
  · rw [h, List.append_assoc, List.singleton_append, cutLast?_append hrest]
    rfl
  · rw [h, List.append_assoc, List.singleton_append, cutLast?_append hrest]
    rfl

/-! ### Hosts and ports -/

theorem mem_portText (h : c ∈ a.portText) : c = ':' ∨ c.isDigit := by
  rw [portText] at h
  split at h
  · exact (List.mem_cons.1 h).imp_right (Numeral.isDigit_of_mem_toDigits c)
  · cases h

theorem cutFirst?_portText : ((cutFirst? ':' a.portText).map Prod.snd).getD [] =
    a.portText.drop 1 := by
  rw [portText]
  split <;> simp [cutFirst?]

theorem written_of_mem (h : ':' ∈ host) : written host = '[' :: host ++ [']'] := by
  rw [written, if_pos (List.contains_iff_mem.2 h)]

theorem written_of_notMem (h : ':' ∉ host) : written host = host := by
  rw [written, if_neg (mt List.contains_iff_mem.1 h)]

theorem mem_written : c ∈ written host ↔ c ∈ host ∨ ':' ∈ host ∧ (c = '[' ∨ c = ']') := by
  by_cases hcolon : ':' ∈ host
  · simp only [written_of_mem hcolon, List.mem_append, List.mem_cons, List.not_mem_nil, or_false,
      hcolon, true_and]
    tauto
  · simp [written_of_notMem hcolon, hcolon]

theorem cutPort_written (hopen : '[' ∉ host) (hclose : ']' ∉ host) :
    cutPort (written host ++ a.portText) = (host, a.portText.drop 1) := by
  have hport : '[' ∉ a.portText := fun h => absurd (mem_portText h) (by decide)
  rw [cutPort]
  by_cases hcolon : ':' ∈ host
  · simp only [written_of_mem hcolon, List.append_assoc, List.cons_append, List.nil_append]
    rw [cutFirst?, if_pos rfl]
    simp only [cutFirst?_append hclose, cutFirst?_portText]
  · rw [written_of_notMem hcolon, cutFirst?_eq_none.2 (by simp [hopen, hport])]
    simp only [portText]
    split
    · rw [cutFirst?_append hcolon]
      rfl
    · rw [List.append_nil, cutFirst?_eq_none.2 hcolon]
      rfl

theorem port?_portText (h : ∀ n ∈ a.port, n ≤ 65535) : port? (a.portText.drop 1) = some a.port := by
  rw [portText]
  split
  next n hn =>
    have hread := Peer.readInt?_repr_port (h n hn)
    rw [Nat.toList_repr] at hread
    have hne : ¬ (Nat.toDigits 10 n).isEmpty := by simp
    have hrange : 0 ≤ (n : Int) ∧ (n : Int) ≤ 65535 :=
      ⟨Int.natCast_nonneg n, Int.ofNat_le.2 (h n hn)⟩
    rw [List.drop_one, List.tail_cons, port?, if_neg hne, hread, hn]
    simp only [if_pos hrange, Int.toNat_natCast]
  next hn =>
    rw [hn]
    rfl

/-! ### Plain authorities -/

/-- An authority that is written in the characters of names, and escapes. -/
structure IsPlain (a : Authority) (host : List Char) : Prop where
  user : ∀ u ∈ a.user, u ≠ [] ∧ ∀ c ∈ u, HostName.isNameChar c ∨ c = '%'
  password : ∀ p ∈ a.password, ∀ c ∈ p, HostName.isNameChar c ∨ c = '%'
  host_eq : a.host = written host
  nonempty : host ≠ []
  chars : ∀ c ∈ host, HostName.isNameChar c ∨ c = '%' ∨ c = ':'
  port : ∀ n ∈ a.port, n ≤ 65535

namespace IsPlain

variable (h : a.IsPlain host)
include h

theorem user_spec : ∀ u ∈ a.user, u ≠ [] ∧ ':' ∉ u := fun u hu =>
  ⟨(h.user u hu).1, fun hc => absurd ((h.user u hu).2 ':' hc) (by decide)⟩

theorem bracket_notMem : '[' ∉ host ∧ ']' ∉ host :=
  ⟨fun hc => absurd (h.chars '[' hc) (by decide), fun hc => absurd (h.chars ']' hc) (by decide)⟩

theorem at_notMem : '@' ∉ a.host ++ a.portText := by
  intro hc
  obtain hc | hc := List.mem_append.1 hc
  · rw [h.host_eq] at hc
    have hhost : '@' ∉ host := fun hc => absurd (h.chars '@' hc) (by decide)
    by_cases hcolon : ':' ∈ host
    · simp [written_of_mem hcolon, hhost] at hc
    · exact hhost (written_of_notMem hcolon ▸ hc)
  · exact absurd (mem_portText hc) (by decide)

theorem bareHost_eq : a.bareHost = host := by
  rw [bareHost, h.host_eq]
  by_cases hcolon : ':' ∈ host
  · simp [written_of_mem hcolon]
  · rw [written_of_notMem hcolon, if_neg (mt List.contains_iff_mem.1 h.bracket_notMem.1)]

/-- An authority is cut into the parts that it was written from. -/
theorem ofText?_text : ofText? a.text = some { a with host := host } := by
  rw [text, List.append_assoc, ofText?_credentials_append h.user_spec h.at_notMem, h.host_eq,
    cutPort_written h.bracket_notMem.1 h.bracket_notMem.2, port?_portText h.port]
  rfl

theorem mem_credentials (hc : c ∈ a.credentials) :
    HostName.isNameChar c ∨ c ∈ ['%', ':', '@'] := by
  have hquoted : HostName.isNameChar c ∨ c = '%' → HostName.isNameChar c ∨ c ∈ ['%', ':', '@'] :=
    Or.imp_right fun hc => by simp [hc]
  have huser (u : List Char) (hu : a.user = some u) (hc : c ∈ u) := hquoted ((h.user u hu).2 c hc)
  rw [credentials] at hc
  split at hc
  · cases hc
  next p hp =>
    simp only [List.mem_append, List.mem_cons, List.not_mem_nil, or_false] at hc
    obtain (hc | rfl | hc) | rfl := hc
    · cases hu : a.user with
      | none => simp [hu] at hc
      | some u => exact huser u hu (by simpa [hu] using hc)
    · exact .inr (by simp)
    · exact hquoted (h.password p hp c hc)
    · exact .inr (by simp)
  next u hu _ =>
    split at hc
    · cases hc
    · obtain hc | hc := List.mem_append.1 hc
      · exact huser u hu hc
      · exact .inr (by simp [List.mem_singleton.1 hc])

theorem isAuthorityChar_of_mem (hc : c ∈ a.text) : isAuthorityChar c := by
  rw [isAuthorityChar_iff]
  simp only [text, List.mem_append, h.host_eq] at hc
  obtain (hc | hc) | hc := hc
  · exact (h.mem_credentials hc).imp_right fun hc => List.mem_append_left ['[', ']'] hc
  · obtain hc | ⟨-, rfl | rfl⟩ := mem_written.1 hc
    · exact (h.chars c hc).imp_right fun hc => by obtain rfl | rfl := hc <;> simp
    · exact .inr (by simp)
    · exact .inr (by simp)
  · obtain rfl | hc := mem_portText hc
    · exact .inr (by simp)
    · exact .inl (isNameChar_of_isDigit hc)

/-- The brackets of a written authority are those around its host. -/
theorem contains_eq {bracket : Char} (hb : bracket = '[' ∨ bracket = ']') :
    a.text.contains bracket = decide (':' ∈ host) := by
  have hcredentials : bracket ∉ a.credentials := fun hc => by
    obtain rfl | rfl := hb <;> exact absurd (h.mem_credentials hc) (by decide)
  have hport : bracket ∉ a.portText := fun hc => by
    obtain rfl | rfl := hb <;> exact absurd (mem_portText hc) (by decide)
  have hhost : bracket ∉ host := by
    obtain rfl | rfl := hb
    · exact h.bracket_notMem.1
    · exact h.bracket_notMem.2
  rw [List.contains_eq_mem, decide_eq_decide]
  simp [text, h.host_eq, mem_written, hcredentials, hport, hhost, hb]

theorem bracketed?_text (hcolon : ':' ∈ host) : bracketed? a.text = some host := by
  have hplace : place a.text = '[' :: host ++ [']'] ++ a.portText := by
    rw [text, List.append_assoc, place_credentials_append h.user_spec h.at_notMem, h.host_eq,
      written_of_mem hcolon]
  rw [bracketed?, hplace]
  simp only [List.append_assoc, List.cons_append, List.nil_append]
  rw [cutFirst?, if_pos rfl]
  have hbehind : a.portText = [] ∨ a.portText.head? = some ':' := by
    rw [portText]
    split <;> simp
  simp only [cutFirst?_append h.bracket_notMem.2, Option.getD_some, List.isEmpty_iff, hbehind,
    and_self, if_true]

theorem text_ne_nil : a.text ≠ [] := by
  obtain ⟨c, hc⟩ := List.exists_mem_of_ne_nil host h.nonempty
  refine List.ne_nil_of_mem (a := c) ?_
  rw [text, h.host_eq]
  exact List.mem_append_left _ (List.mem_append_right _ (mem_written.2 (.inl hc)))

theorem holdsNoHiddenDelimiter : holdsNoHiddenDelimiter a.text :=
  List.all_eq_true.2 fun c hc => by simp [isAuthorityChar_spec (h.isAuthorityChar_of_mem hc)]

theorem bracketsAreSound (hb : ':' ∈ host → isBracketable host) : bracketsAreSound a.text := by
  rw [Url.bracketsAreSound, h.contains_eq (.inl rfl), h.contains_eq (.inr rfl), if_neg (by simp)]
  by_cases hcolon : ':' ∈ host
  · simp [hcolon, h.bracketed?_text hcolon, hb hcolon]
  · simp [hcolon]

/-- An authority whose credentials are quoted and whose host is one that URLs keep is read as it
was written. -/
theorem readAuthority?_text (scheme : List Char) (hkept : Host.IsKept host)
    (huser : ∀ u ∈ a.user, userQuoting.requote u = u)
    (hpassword : ∀ p ∈ a.password, userQuoting.requote p = p) :
    readAuthority? scheme a.text = some a := by
  have hsigns : a.text.any forbiddenSigns.contains = false :=
    List.any_eq_false.2 fun c hc => by simp [isAuthorityChar_spec (h.isAuthorityChar_of_mem hc)]
  have hsound : ¬ (a.text.any forbiddenSigns.contains ∨ !Url.bracketsAreSound a.text ∨
      !Url.holdsNoHiddenDelimiter a.text) := by
    simp [hsigns, h.bracketsAreSound hkept.bracketable, h.holdsNoHiddenDelimiter]
  have hmap {q : Option (List Char)} (hq : ∀ t ∈ q, userQuoting.requote t = t) :
      q.map userQuoting.requote = q := by
    cases q with
    | none => rfl
    | some t => rw [Option.map_some, hq t rfl]
  rw [readAuthority?, if_neg hsound, if_neg (by simpa using h.text_ne_nil), h.ofText?_text]
  simp only [Option.bind_eq_bind, Option.bind_some, List.isEmpty_iff, h.nonempty, false_and,
    if_false, hkept.encode, hmap huser, hmap hpassword, ← h.host_eq]

end IsPlain

end Authority

end SqlCluster.Url
