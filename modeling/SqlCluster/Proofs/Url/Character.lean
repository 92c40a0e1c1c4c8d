import SqlCluster.Proofs.Url.Authority

/-!
The characters of hosts. Whatever a host is read from, it is written in characters of that text, of
names and of addresses (`Host.mem_of_encode?`). So the host of a URL holds no character that would
end its credentials or its authority (`Url.host_of_ofText?`).
-/

namespace SqlCluster.Url

open Text

variable {s t : List Char} {c : Char} {n : Nat}

/-- The characters that hosts are written with, apart from those of the text that they are read
from. -/
def isHostChar (c : Char) : Bool := HostName.isNameChar c || [':', '[', ']'].contains c

theorem isHostChar_of_isNameChar (h : HostName.isNameChar c) : isHostChar c := by
  rw [isHostChar, h, Bool.true_or]

/-- A host is written without the characters that separate it from what stands before and behind. -/
theorem isHostChar_spec (h : isHostChar c) : c ≠ '@' ∧ endsAuthority c = false := by
  have hauthority : isAuthorityChar c := by
    rw [isHostChar, Bool.or_eq_true] at h
    refine isAuthorityChar_iff.2 (h.imp_right fun h => ?_)
    have hmarks := List.contains_iff_mem.1 h
    simp only [List.mem_cons, List.not_mem_nil, or_false] at hmarks ⊢
    tauto
  refine ⟨?_, (isAuthorityChar_spec hauthority).2.1⟩
  rintro rfl
  exact absurd h (by decide)

/-! ### Letters and digits -/

theorem toLower_of_beyond (h : ¬ c.toNat < 128) : c.toLower = c := by
  refine dif_neg fun hupper => h ?_
  exact Nat.lt_of_le_of_lt hupper.2 (by decide)

theorem toLower_eq_or (c : Char) : c.toLower = c ∨ HostName.isNameChar c.toLower := by
  by_cases hascii : c.toNat < 128
  · refine forall_ascii (p := fun c => c.toLower = c ∨ HostName.isNameChar c.toLower) ?_ hascii
    decide
  · exact .inl (toLower_of_beyond hascii)

theorem toLower_toLower (c : Char) : c.toLower.toLower = c.toLower := by
  by_cases hascii : c.toNat < 128
  · refine forall_ascii (p := fun c => c.toLower.toLower = c.toLower) ?_ hascii
    decide
  · rw [toLower_of_beyond hascii, toLower_of_beyond hascii]

/-- A text in lower case has characters of the text or of names. -/
theorem mem_of_mem_map_toLower (h : c ∈ s.map Char.toLower) : c ∈ s ∨ HostName.isNameChar c := by
  obtain ⟨d, hd, rfl⟩ := List.mem_map.1 h
  rcases toLower_eq_or d with heq | hname
  · rw [heq]
    exact .inl hd
  · exact .inr hname

theorem isNameChar_digitChar (n : Nat) : HostName.isNameChar (Nat.digitChar n) := by
  have hdigits : ∀ n < 16, HostName.isNameChar (Nat.digitChar n) := by decide
  by_cases h : n < 16
  · exact hdigits n h
  · have hstar : Nat.digitChar n = '*' := by
      simp only [Nat.digitChar]
      repeat rw [if_neg (by omega)]
    rw [hstar]
    decide

theorem isNameChar_of_mem_toDigits {b : Nat} (hb : 1 < b) (h : c ∈ Nat.toDigits b n) :
    HostName.isNameChar c := by
  induction n using Nat.strongRecOn with
  | ind n ih =>
    by_cases hlt : n < b
    · rw [Nat.toDigits_of_lt_base hlt, List.mem_singleton] at h
      exact h ▸ isNameChar_digitChar n
    · rw [Nat.toDigits_of_base_le hb (by omega), List.mem_append, List.mem_singleton] at h
      rcases h with h | rfl
      · exact ih (n / b) (Nat.div_lt_self (by omega) hb) h
      · exact isNameChar_digitChar (n % b)

/-- Addresses are written in digits with points or colons between them. -/
theorem isHostChar_of_mem_text {ip : IpAddress} (h : c ∈ ip.text) : isHostChar c := by
  have hdigits {b : Nat} (hb : 1 < b) {sep : Char} (hsep : isHostChar sep) {ns : List Nat}
      (h : c ∈ [sep].intercalate (ns.map (Nat.toDigits b))) : isHostChar c := by
    rcases mem_intercalate h with rfl | ⟨p, hp, hc⟩
    · exact hsep
    · obtain ⟨n, -, rfl⟩ := List.mem_map.1 hp
      exact isHostChar_of_isNameChar (isNameChar_of_mem_toDigits hb hc)
  have hgroups {groups : List Nat} (h : c ∈ IpAddress.groupsText groups) : isHostChar c :=
    hdigits (by decide) (by decide) h
  cases ip with
  | v4 bytes => exact hdigits (by decide) (by decide) h
  | v6 groups =>
    simp only [IpAddress.text] at h
    split at h
    · exact hgroups h
    · rcases List.mem_append.1 h with h | h
      · exact hgroups h
      · simp only [List.mem_cons] at h
        rcases h with rfl | rfl | h
        · decide
        · decide
        · exact hgroups h

/-! ### Hosts -/

namespace Host

theorem mem_of_address? (h : address? s = some t) (hc : c ∈ t) : c ∈ s ∨ isHostChar c := by
  rw [address?] at h
  split at h
  · split at h
    next ip zone hcut =>
      have hzone : ∀ c ∈ zone, c ∈ s := by
        split at hcut
        next hs =>
          cases hcut
          obtain ⟨rfl, -⟩ := eq_append_of_cutFirst? hs
          exact fun c hc => List.mem_append_right _ hc
        · cases hcut
          intro c hc
          cases hc
      obtain ⟨address, -, rfl⟩ := Option.map_eq_some_iff.1 h
      cases address with
      | v4 bytes =>
        rcases List.mem_append.1 hc with hc | hc
        · exact .inr (isHostChar_of_mem_text hc)
        · exact .inl (hzone c hc)
      | v6 groups =>
        simp only [List.cons_append, List.mem_cons, List.mem_append, List.not_mem_nil,
          or_false] at hc
        rcases hc with rfl | (hc | hc) | rfl
        · exact .inr (by decide)
        · exact .inr (isHostChar_of_mem_text hc)
        · exact .inl (hzone c hc)
        · exact .inr (by decide)
  · cases h

/-- A host is written in characters of the text that it is read from, of names and of addresses. -/
theorem mem_of_encode? {checked : Bool} (h : encode? checked s = some t) (hc : c ∈ t) :
    c ∈ s ∨ isHostChar c := by
  rw [encode?] at h
  split at h
  next haddress =>
    cases h
    exact mem_of_address? haddress hc
  split at h
  · dsimp only at h
    split at h <;> cases h
    exact (mem_of_mem_map_toLower hc).imp_right isHostChar_of_isNameChar
  · exact .inr (isHostChar_of_isNameChar (HostName.isNameChar_of_toAscii? h c hc))

end Host

namespace Authority

variable {a : Authority}

theorem mem_of_mem_bareHost (h : c ∈ a.bareHost) : c ∈ a.host := by
  rw [bareHost] at h
  split at h
  · exact List.drop_subset _ _ (List.dropLast_subset _ h)
  · exact h

theorem mem_of_mem_cutPort (h : c ∈ (cutPort s).1) : c ∈ s := by
  rw [cutPort] at h
  split at h
  next before inner hopen =>
    obtain ⟨rfl, -⟩ := eq_append_of_cutFirst? hopen
    refine List.mem_append_right _ (List.mem_cons_of_mem _ ?_)
    split at h
    next host behind hclose =>
      obtain ⟨rfl, -⟩ := eq_append_of_cutFirst? hclose
      exact List.mem_append_left _ h
    · exact h
  · cases hcut : cutFirst? ':' s with
    | none =>
      rw [hcut] at h
      exact h
    | some cut =>
      rw [hcut] at h
      obtain ⟨rfl, -⟩ := eq_append_of_cutFirst? (a := cut.1) (b := cut.2) hcut
      exact List.mem_append_left _ h

/-- The host of an authority stands behind its last at sign. -/
theorem mem_of_ofText? (h : ofText? s = some a) (hc : c ∈ a.host) : c ∈ s ∧ c ≠ '@' := by
  simp only [ofText?, Option.bind_eq_bind, Option.bind_eq_some_iff, Option.some.injEq] at h
  obtain ⟨port, -, rfl⟩ := h
  have hplace := mem_of_mem_cutPort hc
  cases hcut : cutLast? '@' s with
  | none =>
    rw [hcut] at hplace
    refine ⟨hplace, ?_⟩
    rintro rfl
    exact cutLast?_eq_none.1 hcut hplace
  | some cut =>
    rw [hcut] at hplace
    obtain ⟨rfl, hat⟩ := eq_append_of_cutLast? (a := cut.1) (b := cut.2) hcut
    refine ⟨List.mem_append_right _ (List.mem_cons_of_mem _ hplace), ?_⟩
    rintro rfl
    exact hat hplace

end Authority

/-! ### URLs that were read -/

theorem host_of_readAuthority? {scheme : List Char} {a : Authority}
    (h : readAuthority? scheme s = some a) (hc : c ∈ a.host) :
    (c ∈ s ∧ c ≠ '@') ∨ isHostChar c := by
  rcases readAuthority?_cases h with rfl | ⟨b, host, hb, rfl | hhost, rfl⟩
  · cases hc
  · cases hc
  · exact (Host.mem_of_encode? hhost hc).imp_left (Authority.mem_of_ofText? hb)

theorem endsAuthority_of_mem_cutAuthority (h : c ∈ (cutAuthority s).1) :
    endsAuthority c = false := by
  unfold cutAuthority at h
  split at h
  · simpa using List.all_eq_true.1 List.all_takeWhile c h
  · cases h

/-- The host of a URL holds nothing that would end its credentials or its authority. -/
theorem host_of_ofText? {u : Url} (h : ofText? s = some u) (hc : c ∈ u.authority.host) :
    c ≠ '@' ∧ endsAuthority c = false := by
  simp only [ofText?, Option.bind_eq_bind, Option.bind_eq_some_iff, Option.some.injEq] at h
  obtain ⟨a, ha, rfl⟩ := h
  rcases host_of_readAuthority? ha hc with ⟨hmem, hat⟩ | hhost
  · exact ⟨hat, endsAuthority_of_mem_cutAuthority hmem⟩
  · exact isHostChar_spec hhost

end SqlCluster.Url
