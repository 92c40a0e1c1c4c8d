import SqlCluster.Proofs.Url.Named

/-!
Addresses without a port. A plain name without a port stands for the default port, but an address of
version 6 in brackets does so only if the port is written (`Peer.ofAddress_eq_append_iff`): without
it the last colon is one inside the brackets, and what follows that is no port.
-/

namespace SqlCluster.Peer

open Text

variable {s zone : List Char} {groups : List Nat} {c : Char}

/-- The hosts of addresses: a name without blanks and marks, or an address of version 6 in brackets,
with a zone or without. -/
inductive IsHostLiteral : List Char → Prop
  | name {s : List Char} (nonempty : s ≠ [])
      (chars : ∀ c ∈ s, isBlank c = false ∧ c ∉ [':', '/', '[', ']']) : IsHostLiteral s
  | address {s zone : List Char} {groups : List Nat}
      (address : Url.IpAddress.ofText? s = some (.v6 groups))
      (chars : ∀ c ∈ zone, Url.HostName.isNameChar c ∨ c = '%') :
      IsHostLiteral ('[' :: ((s ++ zone) ++ [']']))

/-! ### Characters -/

/-- An address with its zone is written in characters of names, colons and percent signs. -/
theorem mem_zoned (hs : Url.IpAddress.ofText? s = some (.v6 groups))
    (hzone : ∀ c ∈ zone, Url.HostName.isNameChar c ∨ c = '%') (hc : c ∈ s ++ zone) :
    Url.HostName.isNameChar c ∨ c ∈ ['%', ':'] := by
  rcases List.mem_append.1 hc with hc | hc
  · have hchars := (Url.Host.isBracketable_of_groups? hs).2.1
    exact (hchars c hc).imp_right fun hc => by simp [hc]
  · exact (hzone c hc).imp_right fun hc => by simp [hc]

theorem IsHostLiteral.visible (h : IsHostLiteral s) : ∀ c ∈ s, isBlank c = false ∧ c ≠ '/' := by
  intro c hc
  cases h with
  | name _ chars =>
    obtain ⟨hblank, hmarks⟩ := chars c hc
    refine ⟨hblank, ?_⟩
    rintro rfl
    exact hmarks (by decide)
  | address hs hzone =>
    have hchar : Url.isAuthorityChar c := by
      rw [Url.isAuthorityChar_iff]
      rcases List.mem_cons.1 hc with rfl | hc
      · exact .inr (by simp)
      · rcases List.mem_append.1 hc with hc | hc
        · exact (mem_zoned hs hzone hc).imp_right (List.mem_append_left ['@', '[', ']'])
        · rw [List.mem_singleton.1 hc]
          exact .inr (by simp)
    exact Url.isBlank_of_isAuthorityChar hchar

/-! ### Brackets -/

section
variable (hs : Url.IpAddress.ofText? s = some (.v6 groups))
include hs

theorem colon_mem_zoned : ':' ∈ s ++ zone :=
  List.mem_append_left _ (Url.Host.isBracketable_of_groups? hs).1

theorem trim_bracketed (hzone : ∀ c ∈ zone, Url.HostName.isNameChar c ∨ c = '%') :
    trim isBracket ('[' :: ((s ++ zone) ++ [']'])) = s ++ zone := by
  have hopen : '[' ∉ s ++ zone := fun hc => absurd (mem_zoned hs hzone hc) (by decide)
  have hclose : ']' ∉ s ++ zone := fun hc => absurd (mem_zoned hs hzone hc) (by decide)
  have hbefore : ∀ c ∈ ['['], isBracket c := List.all_eq_true.1 rfl
  have hbehind : ∀ c ∈ [']'], isBracket c := List.all_eq_true.1 rfl
  exact trim_append (isTrimmed_of_forall (isBracket_of_notMem hopen hclose))
    (List.ne_nil_of_mem (colon_mem_zoned hs)) hbefore hbehind

/-- In an address in brackets the last colon is not the first one, and the closing bracket
follows. -/
theorem exists_cut_bracketed (zone : List Char) : ∃ host port,
    cutLast? ':' ('[' :: ((s ++ zone) ++ [']'])) = some (host, port) ∧ ':' ∈ host ∧ ']' ∈ port := by
  obtain ⟨a, b, d, hcolons⟩ := Url.IpAddress.exists_colons (Url.IpAddress.ofText?_eq_v6 hs)
  obtain ⟨x, y, hcut⟩ := exists_cutLast?_append ':' (d ++ zone ++ [']'])
  have hliteral : '[' :: ((s ++ zone) ++ [']']) =
      ('[' :: a ++ ':' :: b) ++ ':' :: (d ++ zone ++ [']']) := by
    simp [hcolons]
  have hcut := hcut ('[' :: a ++ ':' :: b)
  refine ⟨_, y, hliteral ▸ hcut, by simp, ?_⟩
  -- both end in the same character
  have hlast := congrArg List.getLast? (eq_append_of_cutLast? hcut).1
  cases hy : y.getLast? with
  | none => simp [List.getLast?_cons, hy] at hlast
  | some c =>
    obtain rfl : ']' = c := by simpa [List.getLast?_cons, hy] using hlast
    exact List.mem_of_getLast? hy

theorem ofHostPort_bracketed : ofHostPort ('[' :: ((s ++ zone) ++ [']'])) =
    .error (.invalidPort (String.ofList ('[' :: ((s ++ zone) ++ [']'])))) := by
  obtain ⟨host, port, hcut, hcolon, hclose⟩ := exists_cut_bracketed hs zone
  have hhost : trim isBracket host ≠ [] := List.ne_nil_of_mem (mem_trim hcolon (by decide))
  have hdigits : port.all isDigitLike = false := by
    refine Bool.eq_false_iff.2 fun hall => ?_
    exact notMem_of_forall (List.all_eq_true.1 hall) (isDigitLike_of_mem ']' (by simp)) hclose
  rw [ofHostPort, hcut]
  simp only [Option.getD_some, List.isEmpty_iff, hhost, List.ne_nil_of_mem hclose, hdigits,
    Bool.not_false, if_false, if_true]

end

/-! ### Literals -/

/-- A literal names a host, by itself if it has no brackets. -/
theorem IsHostLiteral.ofHostPort_cases (h : IsHostLiteral s) : trim isBracket s ≠ [] ∧
    ('[' ∉ s ∧ ofHostPort s = .ok ⟨String.ofList (trim isBracket s), defaultPort⟩ ∨
      '[' ∈ s ∧ ofHostPort s = .error (.invalidPort (String.ofList s))) := by
  cases h with
  | name nonempty chars =>
    have hopen : '[' ∉ s := fun hc => (chars '[' hc).2 (by decide)
    have hclose : ']' ∉ s := fun hc => (chars ']' hc).2 (by decide)
    have hcolon : ':' ∉ s := fun hc => (chars ':' hc).2 (by decide)
    have htrim : trim isBracket s ≠ [] := by
      rwa [trim_eq_self (isBracket_of_notMem hopen hclose)]
    exact ⟨htrim, .inl ⟨hopen, ofHostPort_of_notMem hcolon htrim⟩⟩
  | address hs hzone =>
    refine ⟨?_, .inr ⟨List.mem_cons_self, ofHostPort_bracketed hs⟩⟩
    rw [trim_bracketed hs hzone]
    exact List.ne_nil_of_mem (colon_mem_zoned hs)

/-- A host without a port is the same as with the default port exactly if it is not in brackets; in
brackets it is refused. -/
theorem ofAddress_eq_append_iff {literal : String} (h : IsHostLiteral literal.toList) :
    (ofAddress literal = ofAddress (literal ++ ":4001") ↔ '[' ∉ literal.toList) ∧
    ofAddress (literal ++ ":4001") =
      .ok ⟨String.ofList (trim isBracket literal.toList), defaultPort⟩ ∧
    ('[' ∈ literal.toList → ofAddress literal = .error (.invalidPort literal)) := by
  obtain ⟨htrim, hcases⟩ := h.ofHostPort_cases
  have hvisible := h.visible
  have halone : ofAddress literal = ofHostPort literal.toList :=
    ofAddress_eq_ofHostPort hvisible
  have htext : (literal ++ ":4001").toList = literal.toList ++ ':' :: defaultPort.toList := by
    simp [defaultPort]
  have hport : ofAddress (literal ++ ":4001") =
      .ok ⟨String.ofList (trim isBracket literal.toList), defaultPort⟩ := by
    have hchars : ∀ c ∈ (literal ++ ":4001").toList, isBlank c = false ∧ c ≠ '/' := by
      rw [htext, List.forall_mem_append]
      exact ⟨hvisible, List.all_iff_forall_prop.1 rfl⟩
    rw [ofAddress_eq_ofHostPort hchars, htext, ofHostPort_append htrim isPort_defaultPort,
      String.ofList_toList]
  rw [hport]
  rcases hcases with ⟨hopen, hread⟩ | ⟨hopen, hread⟩
  · rw [halone, hread]
    exact ⟨iff_of_true rfl hopen, rfl, fun h => absurd h hopen⟩
  · rw [halone, hread, String.ofList_toList]
    exact ⟨iff_of_false nofun (not_not_intro hopen), rfl, fun _ => rfl⟩

theorem ofAddress_eq_append_iff_zoned :
    ofAddress "[fe80::1%eth0]" = .error (.invalidPort "[fe80::1%eth0]") ∧
    ofAddress ("[fe80::1%eth0]" ++ ":4001") = .ok ⟨"fe80::1%eth0", "4001"⟩ := by
  have haddress :
      Url.IpAddress.ofText? "fe80::1".toList = some (.v6 [0xfe80, 0, 0, 0, 0, 0, 0, 1]) := by
    decide +kernel
  have hzone : ∀ c ∈ "%eth0".toList, Url.HostName.isNameChar c ∨ c = '%' :=
    List.all_iff_forall_prop.1 rfl
  have hliteral : IsHostLiteral "[fe80::1%eth0]".toList := .address haddress hzone
  obtain ⟨-, hport, halone⟩ := ofAddress_eq_append_iff hliteral
  exact ⟨halone (by decide), hport⟩

/-- An address in brackets is refused without a port. -/
theorem not_ofAddress_eq_append_bracketed : ¬ ∀ literal : String, IsHostLiteral literal.toList →
    ofAddress literal = ofAddress (literal ++ ":4001") := by
  intro hall
  have haddress : Url.IpAddress.ofText? "::1".toList = some (.v6 [0, 0, 0, 0, 0, 0, 0, 1]) := by
    decide +kernel
  have hzone : ∀ c ∈ ([] : List Char), Url.HostName.isNameChar c ∨ c = '%' := nofun
  have hliteral : IsHostLiteral "[::1]".toList := .address haddress hzone
  exact absurd (hall "[::1]" hliteral) (by decide +kernel)

end SqlCluster.Peer
