import SqlCluster.Proofs.Peer.Address
import SqlCluster.Proofs.Url.HostName
import SqlCluster.Proofs.Url.Written

/-!
URLs of a name and a port. A URL that has nothing behind its authority is as good as that authority
(`Url.ofText?_authority`). A name of ASCII letters, digits, hyphens and full stops with digits
behind a colon is an authority, and the name is put in lower case (`Url.readAuthority?_named`).
-/

namespace SqlCluster.Url

open Text

variable {s t host port scheme : List Char} {c : Char}

/-- The characters of plain names. -/
def isPlainChar (c : Char) : Bool := isAlphanumeric c || ['-', '.'].contains c

theorem isNameChar_of_isPlainChar (h : isPlainChar c) : HostName.isNameChar c := by
  rw [isPlainChar, Bool.or_eq_true] at h
  rcases h with h | h
  · exact isNameChar_iff.2 (.inl h)
  · have hsigns : ∀ c ∈ ['-', '.'], HostName.isNameChar c := List.all_eq_true.1 rfl
    exact hsigns c (List.contains_iff_mem.1 h)

/-- The characters of authorities are no blanks and no slashes. -/
theorem isBlank_of_isAuthorityChar (h : isAuthorityChar c) : isBlank c = false ∧ c ≠ '/' := by
  have hvisible := (isAuthorityChar_spec h).1
  have hascii : c.toNat < 128 := by
    rcases isAuthorityChar_iff.1 h with h | h
    · exact toNat_lt_of_isNameChar h
    · have hmarks : ∀ c ∈ ['%', ':', '@', '[', ']'], c.toNat < 128 := List.all_iff_forall_prop.1 rfl
      exact hmarks c h
  constructor
  · simp only [isBlank, Bool.or_eq_false_iff, Bool.and_eq_false_iff, decide_eq_false_iff_not,
      beq_eq_false_iff_ne]
    omega
  · rintro rfl
    exact absurd h (by decide)

theorem isAuthorityChar_named (hh : ∀ c ∈ host, isPlainChar c) (hp : ∀ c ∈ port, c.isDigit) :
    ∀ c ∈ host ++ ':' :: port, isAuthorityChar c := by
  intro c hc
  rw [isAuthorityChar_iff]
  rcases List.mem_append.1 hc with hc | hc
  · exact .inl (isNameChar_of_isPlainChar (hh c hc))
  · rcases List.mem_cons.1 hc with rfl | hc
    · exact .inr (by simp)
    · exact .inl (isNameChar_of_isDigit (hp c hc))

/-- A URL that consists of a scheme and an authority. -/
theorem ofText?_authority (hscheme : IsScheme scheme) (hs : ∀ c ∈ s, isAuthorityChar c) :
    ofText? (scheme ++ ':' :: '/' :: '/' :: s) =
      (readAuthority? scheme s).map fun a => ⟨scheme, a, [], [], []⟩ := by
  have hvisible : ∀ c ∈ scheme ++ ':' :: '/' :: '/' :: s, 0x20 < c.toNat := by
    simp only [List.forall_mem_append, List.forall_mem_cons]
    exact ⟨hscheme.visible, by decide, by decide, by decide,
      fun c hc => (isAuthorityChar_spec (hs c hc)).1⟩
  have hcut : cutAuthority ('/' :: '/' :: s) = (s, []) := by
    have hends : ∀ c ∈ ([] : List Char).head?, endsAuthority c := nofun
    have h := cutAuthority_written (fun c hc => (isAuthorityChar_spec (hs c hc)).2.1) hends
    rwa [List.append_nil] at h
  rw [ofText?, stripped_eq hvisible, hscheme.cutScheme_append]
  simp only [hcut, Option.bind_eq_bind]
  cases readAuthority? scheme s with
  | none => rfl
  | some a =>
    rw [Option.bind_some, Option.map_some]
    split <;> rfl

/-! ### Names -/

theorem Host.isNamed_of_address? (hcolon : ':' ∉ s) (hzone : '%' ∉ s) (h : address? s = some t) :
    IsNamed s := by
  rw [address?] at h
  split at h
  · rw [cutFirst?_eq_none.2 hzone] at h
    obtain ⟨ip, hip, -⟩ := Option.map_eq_some_iff.1 h
    obtain ⟨bytes, rfl, -⟩ := v4_of_notMem hcolon hip
    exact isNamed_of_bytes? (IpAddress.ofText?_eq_v4 hip)
  · cases h

theorem Host.encode?_named (hh : ∀ c ∈ host, isPlainChar c) :
    encode? false host = some (host.map Char.toLower) := by
  have hcolon : ':' ∉ host := notMem_of_forall hh (by decide)
  have hzone : '%' ∉ host := notMem_of_forall hh (by decide)
  cases haddress : address? host with
  | some t =>
    rw [(isNamed_of_address? hcolon hzone haddress).lower, encode?, haddress,
      eq_of_address? hcolon haddress]
  | none =>
    have hascii : HostName.isAscii host := List.all_eq_true.2 fun c hc =>
      decide_eq_true (toNat_lt_of_isNameChar (isNameChar_of_isPlainChar (hh c hc)))
    rw [encode?, haddress]
    simp only [hascii, if_true]
    rfl

/-- A name with digits behind a colon is an authority, if the digits are a port. -/
theorem readAuthority?_named (hh : ∀ c ∈ host, isPlainChar c) (hne : host ≠ [])
    (hp : ∀ c ∈ port, c.isDigit) :
    readAuthority? scheme (host ++ ':' :: port) =
      (Authority.port? port).map fun n => ⟨none, none, host.map Char.toLower, n⟩ := by
  have hchars := isAuthorityChar_named hh hp
  have hnotMem (c : Char) (hc : isPlainChar c = false) (hd : c.isDigit = false) (hne : c ≠ ':') :
      c ∉ host ++ ':' :: port := by
    simp [notMem_of_forall hh hc, notMem_of_forall hp hd, hne]
  have hat : '@' ∉ host ++ ':' :: port := hnotMem '@' (by decide) (by decide) (by decide)
  have hopen : '[' ∉ host ++ ':' :: port := hnotMem '[' (by decide) (by decide) (by decide)
  have hclose : ']' ∉ host ++ ':' :: port := hnotMem ']' (by decide) (by decide) (by decide)
  have hsigns : (host ++ ':' :: port).any forbiddenSigns.contains = false :=
    List.any_eq_false.2 fun c hc => by simp [isAuthorityChar_spec (hchars c hc)]
  have hhidden : holdsNoHiddenDelimiter (host ++ ':' :: port) :=
    List.all_eq_true.2 fun c hc => by simp [isAuthorityChar_spec (hchars c hc)]
  have hbrackets : bracketsAreSound (host ++ ':' :: port) := by
    rw [bracketsAreSound, Bool.eq_false_iff.2 (mt List.contains_iff_mem.1 hopen),
      Bool.eq_false_iff.2 (mt List.contains_iff_mem.1 hclose)]
    rfl
  have hcolon : ':' ∉ host := notMem_of_forall hh (by decide)
  have hcut : Authority.ofText? (host ++ ':' :: port) =
      (Authority.port? port).map fun n => ⟨none, none, host, n⟩ := by
    rw [Authority.ofText?, cutLast?_eq_none.2 hat]
    simp only [Authority.cutPort, cutFirst?_eq_none.2 hopen, cutFirst?_append hcolon,
      Option.getD_some]
    exact Option.map_eq_bind.symm
  rw [readAuthority?, if_neg (by simp [hsigns, hhidden, hbrackets]), if_neg (by simp), hcut]
  cases Authority.port? port with
  | none => rfl
  | some n =>
    simp [hne, Host.encode?_named hh]

end SqlCluster.Url
