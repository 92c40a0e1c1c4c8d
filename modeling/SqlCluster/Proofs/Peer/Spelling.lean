import SqlCluster.Directory
import SqlCluster.Proofs.Url.Named

/-!
Two spellings of one address: a name with a port, and the URL of that name and that port. URLs put
names in lower case, read labels in Punycode, leave out the zeros in front of a port and take the
port zero for none at all; an address with a port does nothing of that. So the spellings name the
same peer only where there is nothing to do (`Peer.IsCanonical`, `Peer.spellings_agree_iff`).
-/

namespace SqlCluster

open Text

/-! ### Ports in digits -/

/-- Digits that denote no port: too many of them, or a number that is too large. -/
def Numeral.IsOversized (s : List Char) : Prop := digitLimit < s.length ∨ 65535 < digitsValue s

instance : DecidablePred Numeral.IsOversized := fun _ => inferInstanceAs (Decidable (_ ∨ _))

variable {host port : List Char}

/-- Digits are read as their value, unless there are too many of them. -/
theorem Numeral.readInt?_digits_cases (hp : ∀ c ∈ port, c.isDigit) (hne : port ≠ []) :
    (readInt? port = none ∧ IsOversized port) ∨
    (readInt? port = some (digitsValue port : Int) ∧
      (IsOversized port ↔ 65535 < digitsValue port)) := by
  rw [readInt?_digits hp hne]
  by_cases hlong : digitLimit < port.length
  · exact .inl ⟨if_pos hlong, .inl hlong⟩
  · exact .inr ⟨if_neg hlong, or_iff_right hlong⟩

theorem Url.Authority.port?_digits (hp : ∀ c ∈ port, c.isDigit) (hne : port ≠ []) :
    port? port =
      if Numeral.IsOversized port then none else some (some (Numeral.digitsValue port)) := by
  rw [port?, if_neg (mt List.isEmpty_iff.1 hne)]
  rcases Numeral.readInt?_digits_cases hp hne with ⟨hread, hover⟩ | ⟨hread, hover⟩
  · rw [hread, if_pos hover]
  · rw [hread, if_congr hover rfl rfl]
    by_cases hlarge : 65535 < Numeral.digitsValue port
    · rw [if_pos hlarge]
      exact if_neg (by omega)
    · rw [if_neg hlarge]
      exact if_pos (by omega)

namespace Peer

/-- The peer of an address with digits behind its last colon. -/
theorem ofHostPort_digits (hhost : trim isBracket host ≠ []) (hp : ∀ c ∈ port, c.isDigit)
    (hne : port ≠ []) :
    (ofHostPort (host ++ ':' :: port)).toOption =
      if Numeral.IsOversized port ∨ Numeral.digitsValue port = 0 then none
      else some ⟨String.ofList (trim isBracket host), String.ofList port⟩ := by
  have hcolon : ':' ∉ port := notMem_of_forall hp (by decide)
  have hdigits : port.all isDigitLike :=
    List.all_eq_true.2 fun c hc => isDigitLike_of_isDigit (hp c hc)
  rw [ofHostPort, cutLast?_append hcolon]
  simp only [Option.getD_some, List.isEmpty_iff, hhost, hne, hdigits, Bool.not_true,
    Bool.false_eq_true, if_false]
  rcases Numeral.readInt?_digits_cases hp hne with ⟨hread, hover⟩ | ⟨hread, hover⟩
  · rw [hread, if_pos (Or.inl hover)]
    rfl
  · rw [hread, if_congr (or_congr_left hover) rfl rfl]
    by_cases hrange : 0 < Numeral.digitsValue port ∧ Numeral.digitsValue port < 65536
    · rw [if_neg (by omega)]
      exact congrArg Except.toOption (if_pos (by omega))
    · rw [if_pos (by omega)]
      exact congrArg Except.toOption (if_neg (by omega))

/-! ### Names with ports -/

/-- A plain name: ASCII letters, digits, hyphens and full stops, with a letter in front. -/
structure IsPlainName (s : List Char) : Prop where
  letter : ∃ c ∈ s.head?, c.isAlpha
  chars : ∀ c ∈ s, Url.isPlainChar c

theorem IsPlainName.ne_nil (h : IsPlainName host) : host ≠ [] := by
  obtain ⟨c, hc, -⟩ := h.letter
  exact List.ne_nil_of_mem (List.mem_of_head? hc)

/-- A name in lower case consists of more than full stops. -/
theorem IsPlainName.exists_mem_map_toLower (h : IsPlainName host) :
    ∃ c ∈ host.map Char.toLower, c ≠ '.' := by
  obtain ⟨c, hc, hletter⟩ := h.letter
  have hmem := List.mem_of_head? hc
  have hascii := Url.toNat_lt_of_isNameChar (Url.isNameChar_of_isPlainChar (h.chars c hmem))
  refine ⟨c.toLower, List.mem_map_of_mem hmem, ?_⟩
  exact Url.forall_ascii (p := fun c => c.isAlpha → c.toLower ≠ '.') (by decide) hascii hletter

theorem IsPlainName.isNameChar_map_toLower (h : IsPlainName host) :
    ∀ c ∈ host.map Char.toLower, Url.HostName.isNameChar c := by
  intro c hc
  rcases Url.mem_of_mem_map_toLower hc with hc | hc
  · exact Url.isNameChar_of_isPlainChar (h.chars c hc)
  · exact hc

/-- The URL of a name and a port. -/
def namedUrl (host port : List Char) : List Char :=
  "http".toList ++ ':' :: '/' :: '/' :: (host ++ ':' :: port)

/-- The peer of the URL of a name and a port. -/
theorem ofUrl_namedUrl (h : IsPlainName host) (hp : ∀ c ∈ port, c.isDigit) (hne : port ≠ []) :
    (ofUrl (namedUrl host port)).toOption =
      if Numeral.IsOversized port then none
      else (Url.Host.decode? (host.map Char.toLower)).map fun name =>
        ⟨String.ofList name, if Numeral.digitsValue port = 0 then defaultPort
          else (Numeral.digitsValue port).repr⟩ := by
  have hscheme : Url.IsScheme "http".toList := ⟨by decide, List.all_eq_true.1 rfl, rfl⟩
  rw [ofUrl, namedUrl, Url.ofText?_authority hscheme (Url.isAuthorityChar_named h.chars hp),
    Url.readAuthority?_named h.chars h.ne_nil hp, Url.Authority.port?_digits hp hne]
  by_cases hover : Numeral.IsOversized port
  · rw [if_pos hover, if_pos hover]
    rfl
  · rw [if_neg hover, if_neg hover]
    have hchars := h.isNameChar_map_toLower
    have hopen : '[' ∉ host.map Char.toLower := notMem_of_forall hchars (by decide)
    have hcolon : ':' ∉ host.map Char.toLower := notMem_of_forall hchars (by decide)
    simp only [Option.map_some, Url.host?, Url.port?, Url.Authority.bareHost,
      if_neg (mt List.contains_iff_mem.1 hopen)]
    cases hname : Url.Host.decode? (host.map Char.toLower) with
    | none => rfl
    | some name =>
      obtain ⟨c, hc, hdot⟩ := h.exists_mem_map_toLower
      obtain ⟨c, rest, rfl⟩ :=
        List.exists_cons_of_ne_nil (Url.Host.ne_nil_of_decode? hname hcolon hc hdot)
      cases Numeral.digitsValue port with
      | zero => rfl
      | succ n => rfl

/-! ### Spellings -/

/-- A name and a port as URLs have them: the name in lower case and, unless it looks like an
address, without Punycode, and the port without zeros in front. -/
structure IsCanonical (host port : List Char) : Prop where
  lower : host.map Char.toLower = host
  unmarked : Url.Host.looksNumeric host ∨
    ∀ label ∈ parts '.' host, ¬ Url.HostName.mark <+: label
  leads : Numeral.Leads port

/-- URLs take a name and a port for what they are exactly if they are canonical. -/
theorem isCanonical_iff (h : IsPlainName host) (hport : Numeral.digitsValue port ≠ 0) :
    IsCanonical host port ↔ Url.Host.decode? (host.map Char.toLower) = some host ∧
      Nat.toDigits 10 (Numeral.digitsValue port) = port := by
  have hhost : ∀ c ∈ host, Url.HostName.isNameChar c := fun c hc =>
    Url.isNameChar_of_isPlainChar (h.chars c hc)
  have hidem : (host.map Char.toLower).map Char.toLower = host.map Char.toLower := by
    rw [List.map_map]
    exact List.map_congr_left fun c _ => Url.toLower_toLower c
  have hne : host.map Char.toLower ≠ [] := by simpa using h.ne_nil
  rw [Url.Host.decode?_eq_some_iff hne hidem h.isNameChar_map_toLower hhost,
    ← Numeral.leads_iff hport]
  constructor
  · intro hcanonical
    refine ⟨⟨hcanonical.lower.symm, ?_⟩, hcanonical.leads⟩
    rw [hcanonical.lower]
    exact hcanonical.unmarked
  · rintro ⟨⟨hlower, hunmarked⟩, hleads⟩
    rw [← hlower] at hunmarked
    exact ⟨hlower.symm, hunmarked, hleads⟩

theorem peers_pair (p q : Peer) : (⟨some p, [q]⟩ : Directory).peers = [p] ↔ q = p := by
  show Directory.addPeer [p] q = [p] ↔ q = p
  rw [Directory.addPeer]
  by_cases hpq : q = p
  · simp [hpq]
  · simp [hpq]

theorem IsPlainName.trim_eq (h : IsPlainName host) : trim isBracket host = host :=
  trim_eq_self (isBracket_of_notMem (notMem_of_forall h.chars (by decide))
    (notMem_of_forall h.chars (by decide)))

section
variable {host port : String} (h : IsPlainName host.toList) (hp : ∀ c ∈ port.toList, c.isDigit)
  (hne : port ≠ "")
include h hp hne

theorem ofAddress_named : (ofAddress (host ++ ":" ++ port)).toOption =
    if Numeral.IsOversized port.toList ∨ Numeral.digitsValue port.toList = 0 then none
    else some ⟨host, port⟩ := by
  have htext : (host ++ ":" ++ port).toList = host.toList ++ ':' :: port.toList := by simp
  have hchars : ∀ c ∈ (host ++ ":" ++ port).toList, isBlank c = false ∧ c ≠ '/' := by
    intro c hc
    rw [htext] at hc
    exact Url.isBlank_of_isAuthorityChar (Url.isAuthorityChar_named h.chars hp c hc)
  have hhost : trim isBracket host.toList ≠ [] := by
    rw [h.trim_eq]
    exact h.ne_nil
  rw [ofAddress_eq_ofHostPort hchars, htext, ofHostPort_digits hhost hp (by simpa using hne),
    h.trim_eq, String.ofList_toList, String.ofList_toList]

theorem ofAddress_namedUrl : (ofAddress ("http://" ++ host ++ ":" ++ port)).toOption =
    if Numeral.IsOversized port.toList then none
    else (Url.Host.decode? (host.toList.map Char.toLower)).map fun name =>
      ⟨String.ofList name, if Numeral.digitsValue port.toList = 0 then defaultPort
        else (Numeral.digitsValue port.toList).repr⟩ := by
  have htext : ("http://" ++ host ++ ":" ++ port).toList = namedUrl host.toList port.toList := by
    simp [namedUrl]
  have hurl : isUrl (namedUrl host.toList port.toList) := isUrl_iff_contains.2
    ⟨"http".toList, host.toList ++ ':' :: port.toList, by simp [namedUrl]⟩
  have hnamed (c : Char) (hc : c ∈ host.toList ++ ':' :: port.toList) : isBlank c = false :=
    (Url.isBlank_of_isAuthorityChar (Url.isAuthorityChar_named h.chars hp c hc)).1
  have hblank : ∀ c ∈ ("http://" ++ host ++ ":" ++ port).toList, isBlank c = false := by
    have hmarks : ("http://" ++ host ++ ":" ++ port).toList =
        "http://".toList ++ (host.toList ++ ':' :: port.toList) := by simp
    rw [hmarks, List.forall_mem_append]
    exact ⟨List.all_iff_forall_prop.1 rfl, hnamed⟩
  rw [ofAddress_of_isUrl hblank (htext ▸ hurl), htext, ofUrl_namedUrl h hp (by simpa using hne)]

/-- With a port from 1 to 65535 the two spellings agree if the name and the port are canonical, and
with the port zero only if neither of them names a peer. -/
theorem toOption_eq_iff :
    (ofAddress (host ++ ":" ++ port)).toOption =
        (ofAddress ("http://" ++ host ++ ":" ++ port)).toOption ↔
      IsCanonical host.toList port.toList ∨ Numeral.IsOversized port.toList ∨
        Numeral.digitsValue port.toList = 0 ∧
          Url.Host.decode? (host.toList.map Char.toLower) = none := by
  rw [ofAddress_named h hp hne, ofAddress_namedUrl h hp hne]
  by_cases hover : Numeral.IsOversized port.toList
  · simp [hover]
  by_cases hzero : Numeral.digitsValue port.toList = 0
  · have hcanonical : ¬ IsCanonical host.toList port.toList := fun hcanonical =>
      hcanonical.leads.digitsValue_ne_zero hzero
    rw [if_pos (Or.inr hzero), if_neg hover, eq_comm, Option.map_eq_none_iff]
    simp only [hcanonical, hover, hzero, false_or, true_and]
  · have hfits : ¬ (Numeral.IsOversized port.toList ∨ Numeral.digitsValue port.toList = 0) :=
      not_or.2 ⟨hover, hzero⟩
    rw [if_neg hfits, if_neg hover, isCanonical_iff h hzero, eq_comm, Option.map_eq_some_iff]
    simp only [hover, hzero, if_false, false_and, or_false]
    constructor
    · intro hread
      obtain ⟨name, hname, heq⟩ := hread
      obtain ⟨rfl, hport⟩ := Peer.mk.inj heq
      exact ⟨by simpa using hname, Nat.toList_repr.symm.trans (congrArg String.toList hport)⟩
    · intro hcanonical
      obtain ⟨hname, hport⟩ := hcanonical
      have hrepr : (Numeral.digitsValue port.toList).repr = port :=
        String.toList_inj.1 (Nat.toList_repr.trans hport)
      refine ⟨host.toList, hname, ?_⟩
      rw [String.ofList_toList, hrepr]

end

/-- The two spellings of an address name the same peer, or neither names one, exactly if the name
and the port are canonical, the port is oversized, or the port is zero and URLs do not have the
name. Where both name a peer, the two are one entry of a directory exactly if the name and the port
are canonical. -/
theorem spellings_agree_iff {host port : String} (h : IsPlainName host.toList)
    (hp : ∀ c ∈ port.toList, c.isDigit) (hne : port ≠ "") :
    ((ofAddress (host ++ ":" ++ port)).toOption =
        (ofAddress ("http://" ++ host ++ ":" ++ port)).toOption ↔
      IsCanonical host.toList port.toList ∨ Numeral.IsOversized port.toList ∨
        Numeral.digitsValue port.toList = 0 ∧
          Url.Host.decode? (host.toList.map Char.toLower) = none) ∧
    ∀ p q, ofAddress (host ++ ":" ++ port) = .ok p →
      ofAddress ("http://" ++ host ++ ":" ++ port) = .ok q →
      ((⟨some p, [q]⟩ : Directory).peers = [p] ↔ IsCanonical host.toList port.toList) := by
  have hagree := toOption_eq_iff h hp hne
  refine ⟨hagree, fun p q hpeer hq => ?_⟩
  have hsome := ofAddress_named h hp hne
  rw [hpeer] at hsome
  obtain ⟨hfits, -⟩ := Option.ite_none_left_eq_some.1 hsome.symm
  obtain ⟨hover, hzero⟩ := not_or.1 hfits
  rw [hpeer, hq] at hagree
  simp only [hover, hzero, false_and, or_false] at hagree
  rw [peers_pair, eq_comm, ← Option.some_inj]
  exact hagree

theorem spellings_agree_iff_padded : ∃ p q, ofAddress ("Node-1" ++ ":" ++ "04001") = .ok p ∧
    ofAddress ("http://" ++ "Node-1" ++ ":" ++ "04001") = .ok q ∧
    (⟨some p, [q]⟩ : Directory).peers ≠ [p] := by
  have hname : IsPlainName "Node-1".toList := ⟨⟨'N', rfl, rfl⟩, List.all_eq_true.1 rfl⟩
  have hp : ∀ c ∈ "04001".toList, c.isDigit := List.all_eq_true.1 rfl
  have hplain : ofAddress ("Node-1" ++ ":" ++ "04001") = .ok ⟨"Node-1", "04001"⟩ := by
    decide +kernel
  have hurl : ofAddress ("http://" ++ "Node-1" ++ ":" ++ "04001") = .ok ⟨"node-1", "4001"⟩ := by
    decide +kernel
  have hone := (spellings_agree_iff hname hp (by decide)).2 _ _ hplain hurl
  refine ⟨_, _, hplain, hurl, fun hpeers => ?_⟩
  have hcanonical := hone.1 hpeers
  exact absurd hcanonical.lower (by decide)

/-- The port zero is refused behind a name and taken for none at all in a URL. -/
theorem not_spellings_agree_zero : ¬ ∀ host port : String, IsPlainName host.toList →
    (∀ c ∈ port.toList, c.isDigit) → port ≠ "" →
    (ofAddress (host ++ ":" ++ port)).toOption =
      (ofAddress ("http://" ++ host ++ ":" ++ port)).toOption := by
  intro hall
  have hname : IsPlainName "n1".toList := ⟨⟨'n', rfl, rfl⟩, List.all_eq_true.1 rfl⟩
  have hagree := hall "n1" "0" hname (List.all_eq_true.1 rfl) (by decide)
  exact absurd hagree (by decide +kernel)

end Peer

end SqlCluster
