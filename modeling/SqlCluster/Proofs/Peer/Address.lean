import Mathlib.Data.Bool.AllAny
import SqlCluster.Peer
import SqlCluster.Proofs.Number.Numeral
import SqlCluster.Proofs.Text.Blank

/-!
Addresses of hosts with ports. An address that is no URL is cut at its last colon, and what stands
behind it must be a port (`Peer.IsPort`), if anything does (`Peer.ofHostPort_append`,
`Peer.ofHostPort_cases`). Whether an address is a URL is decided in front of that colon
(`Peer.isUrl_of_append`).
-/

namespace SqlCluster

open Text

namespace Peer

variable {address host port s a b : List Char} {c : Char} {p : Peer}

/-! ### URLs among addresses -/

theorem isUrl_iff_contains : isUrl s ↔ [':', '/', '/'] <:+: s := by
  induction s with
  | nil => simp [isUrl]
  | cons c s ih =>
    rw [isUrl, Bool.or_eq_true, List.isPrefixOf_iff_prefix, ih]
    exact List.infix_cons_iff.symm

theorem slash_mem_of_isUrl (h : isUrl s) : '/' ∈ s :=
  (isUrl_iff_contains.1 h).subset (by simp)

/-- Whether an address is a URL is decided in front of a colon with no slash behind it. -/
theorem isUrl_of_append (h : isUrl (a ++ ':' :: b)) (hb : '/' ∉ b) : isUrl a := by
  obtain ⟨x, y, hxy⟩ := isUrl_iff_contains.1 h
  have hrest : '/' ∉ ':' :: b := by simpa using hb
  rcases List.append_eq_append_iff.1 hxy with ⟨z, hz, -⟩ | ⟨z, hz, hy⟩
  · exact isUrl_iff_contains.2 ⟨x, z, hz.symm⟩
  · -- the second slash would stand behind the colon
    rcases List.eq_nil_or_concat z with rfl | ⟨z, c, rfl⟩
    · exact isUrl_iff_contains.2 ⟨x, [], by simpa using hz⟩
    · have hslash : c = '/' := by simpa using (congrArg List.getLast? hz).symm
      refine absurd ?_ hrest
      rw [hy, hslash]
      simp

theorem isUrl_append (h : isUrl s) (a b : List Char) : isUrl (a ++ (s ++ b)) := by
  obtain ⟨x, y, hxy⟩ := isUrl_iff_contains.1 h
  exact isUrl_iff_contains.2 ⟨a ++ x, y ++ b, by simp [← hxy]⟩

/-! ### Addresses without blanks -/

section
variable {text : String} (h : ∀ c ∈ text.toList, isBlank c = false)
include h

theorem ofAddress_of_isUrl (hurl : isUrl text.toList) : ofAddress text = ofUrl text.toList := by
  rw [ofAddress, trim_eq_self h]
  exact if_pos hurl

theorem ofAddress_of_not_isUrl (hurl : ¬ isUrl text.toList) :
    ofAddress text = ofHostPort text.toList := by
  rw [ofAddress, trim_eq_self h]
  exact if_neg hurl

end

/-- An address without slashes is no URL. -/
theorem ofAddress_eq_ofHostPort {text : String}
    (h : ∀ c ∈ text.toList, isBlank c = false ∧ c ≠ '/') :
    ofAddress text = ofHostPort text.toList :=
  ofAddress_of_not_isUrl (fun c hc => (h c hc).1) fun hurl =>
    (h '/' (slash_mem_of_isUrl hurl)).2 rfl

/-! ### Ports -/

/-- The text of a port that an address may have. -/
structure IsPort (s : List Char) : Prop where
  nonempty : s ≠ []
  digits : ∀ c ∈ s, isDigitLike c
  value : ∃ n : Nat, Numeral.readInt? s = some (n : Int) ∧ 0 < n ∧ n ≤ 65535

theorem isDigitLike_of_isDigit (h : c.isDigit) : isDigitLike c := by
  rw [isDigitLike, isDecimal, decimalValue?_of_isDigit h]
  rfl

/-- Marks that end a host, a URL or an address in brackets are no digits of any script. -/
theorem isDigitLike_of_mem : ∀ c ∈ [':', '/', ']'], isDigitLike c = false :=
  List.all_iff_forall_prop.1 (by decide +kernel)

theorem IsPort.colon_notMem (h : IsPort s) : ':' ∉ s :=
  notMem_of_forall h.digits (isDigitLike_of_mem ':' (by simp))

theorem IsPort.slash_notMem (h : IsPort s) : '/' ∉ s :=
  notMem_of_forall h.digits (isDigitLike_of_mem '/' (by simp))

theorem readInt?_repr_port {n : Nat} (h : n ≤ 65535) :
    Numeral.readInt? n.repr.toList = some (n : Int) := by
  have hfive : (Nat.toDigits 10 n).length ≤ 5 :=
    (Nat.length_toDigits_le_iff (by decide) (by decide)).2 (by omega)
  exact Numeral.readInt?_repr (Numeral.isWritable_iff.2 (Nat.le_trans hfive (by decide)))

theorem isPort_repr {n : Nat} (hpos : 0 < n) (hle : n ≤ 65535) : IsPort n.repr.toList where
  nonempty := by simp
  digits c hc := by
    rw [Nat.toList_repr] at hc
    exact isDigitLike_of_isDigit (Numeral.isDigit_of_mem_toDigits c hc)
  value := ⟨n, readInt?_repr_port hle, hpos, hle⟩

theorem isPort_defaultPort : IsPort defaultPort.toList :=
  isPort_repr (n := 4001) (by decide) (by decide)

/-! ### Hosts with ports -/

theorem isBracket_of_notMem (hopen : '[' ∉ s) (hclose : ']' ∉ s) :
    ∀ c ∈ s, isBracket c = false := by
  intro c hc
  refine Bool.eq_false_iff.2 fun hbracket => ?_
  rw [isBracket, Bool.or_eq_true, beq_iff_eq, beq_iff_eq] at hbracket
  rcases hbracket with rfl | rfl
  · exact hopen hc
  · exact hclose hc

theorem ofHostPort_of_notMem (hcolon : ':' ∉ host) (hhost : trim isBracket host ≠ []) :
    ofHostPort host = .ok ⟨String.ofList (trim isBracket host), defaultPort⟩ := by
  rw [ofHostPort, cutLast?_eq_none.2 hcolon]
  simp [hhost]

theorem ofHostPort_append (hhost : trim isBracket host ≠ []) (hport : IsPort port) :
    ofHostPort (host ++ ':' :: port) =
      .ok ⟨String.ofList (trim isBracket host), String.ofList port⟩ := by
  obtain ⟨n, hn, hpos, hle⟩ := hport.value
  have hdigits : port.all isDigitLike := List.all_eq_true.2 hport.digits
  have hrange : 0 < (n : Int) ∧ (n : Int) < 65536 := by omega
  rw [ofHostPort, cutLast?_append hport.colon_notMem]
  simp only [Option.getD_some, List.isEmpty_iff, hhost, hport.nonempty, hdigits, hn,
    Bool.not_true, Bool.false_eq_true, if_false, if_pos hrange]

/-- An address is cut at its last colon. -/
theorem exists_cut (address : List Char) : ∃ host port,
    (cutLast? ':' address).getD (address, []) = (host, port) ∧
      (address = host ∧ port = [] ∨ address = host ++ ':' :: port) := by
  cases hcut : cutLast? ':' address with
  | none => exact ⟨address, [], rfl, .inl ⟨rfl, rfl⟩⟩
  | some cut => exact ⟨cut.1, cut.2, rfl, .inr (eq_append_of_cutLast? hcut).1⟩

/-- The host and the port that an address has, which may have none, or none behind its colon. -/
theorem ofHostPort_cases (h : ofHostPort address = .ok p) : ∃ host,
    p.host.toList = trim isBracket host ∧ p.host.toList ≠ [] ∧ IsPort p.port.toList ∧
    (p.port = defaultPort ∧ (address = host ∨ address = host ++ [':']) ∨
      address = host ++ ':' :: p.port.toList) := by
  obtain ⟨host, port, hcut, haddress⟩ := exists_cut address
  simp only [ofHostPort, hcut] at h
  refine ⟨host, ?_⟩
  split at h
  · cases h
  next hhost =>
    split at h
    next hempty =>
      cases h
      rw [List.isEmpty_iff.1 hempty] at haddress
      refine ⟨by simp, by simpa using hhost, isPort_defaultPort, ?_⟩
      exact .inl ⟨rfl, haddress.imp_left And.left⟩
    next hne =>
      split at h
      · cases h
      next hdigits =>
        split at h
        · cases h
        next n hn =>
          split at h <;> cases h
          next hrange =>
            have hport : IsPort port := by
              refine ⟨by simpa using hne, by simpa using hdigits, n.toNat, ?_, by omega, by omega⟩
              rw [hn, Int.toNat_of_nonneg (by omega)]
            refine ⟨by simp, by simpa using hhost, by simpa using hport, .inr ?_⟩
            rcases haddress with ⟨-, hnone⟩ | haddress
            · exact absurd hnone hport.nonempty
            · simpa using haddress

end Peer

end SqlCluster
