import SqlCluster.Proofs.Url.Authority

/-!
Written URLs and back. A text that is put together from a scheme, an authority, a path and a query
is cut into just these, and a URL all whose parts are written as they are (`IsPlain`) is read from
its text (`IsPlain.ofText?_text`).
-/

namespace SqlCluster.Url

open Text

variable {s rest scheme : List Char} {c : Char} {q : Quoting}

/-! ### Cutting -/

theorem stripped_eq (h : ∀ c ∈ s, 0x20 < c.toNat) : stripped s = s := by
  have hleading : s.dropWhile (fun c => c.toNat ≤ 0x20) = s := by
    cases s with
    | nil => rfl
    | cons c s => exact List.dropWhile_cons_of_neg (by simpa using h c (by simp))
  rw [stripped, hleading]
  refine List.filter_eq_self.2 fun c hc => decide_eq_true ⟨?_, ?_, ?_⟩ <;> rintro rfl <;>
    exact absurd (h _ hc) (by decide)

/-- A scheme in lower case. -/
structure IsScheme (scheme : List Char) : Prop where
  nonempty : scheme ≠ []
  chars : ∀ c ∈ scheme, isSchemeChar c
  lower : scheme.map Char.toLower = scheme

theorem IsScheme.cutScheme_append (h : IsScheme scheme) (rest : List Char) :
    cutScheme (scheme ++ ':' :: rest) = (scheme, rest) := by
  have hcolon : ':' ∉ scheme := fun hc => absurd (h.chars ':' hc) (by decide)
  rw [cutScheme, cutFirst?_append hcolon]
  simp only [h.lower]
  rw [if_pos (by simpa [h.nonempty] using h.chars)]

theorem cutAuthority_written {authority : List Char} (h : ∀ c ∈ authority, endsAuthority c = false)
    (hrest : ∀ c ∈ rest.head?, endsAuthority c) :
    cutAuthority ('/' :: '/' :: authority ++ rest) = (authority, rest) := by
  have hauthority : ∀ c ∈ authority, (!endsAuthority c) = true := fun c hc => by simp [h c hc]
  have hends : ∀ c ∈ rest.head?, (!endsAuthority c) = false := fun c hc => by simp [hrest c hc]
  simp only [List.cons_append, cutAuthority]
  rw [takeWhile_append_eq hauthority hends, dropWhile_append_eq hauthority hends]

theorem cutAt_append {mark : Char} {a b : List Char} (h : mark ∉ a) :
    cutAt mark (a ++ mark :: b) = (a, b) := by
  rw [cutAt, cutFirst?_append h, Option.getD_some]

theorem cutAt_of_notMem {mark : Char} (h : mark ∉ s) : cutAt mark s = (s, []) := by
  rw [cutAt, cutFirst?_eq_none.2 h, Option.getD_none]

/-- A query behind its mark, if there is one. -/
theorem cutAt_query {path query : List Char} (h : '?' ∉ path) :
    cutAt '?' (path ++ if query.isEmpty then [] else '?' :: query) = (path, query) := by
  split
  next hempty => rw [List.append_nil, cutAt_of_notMem h, List.isEmpty_iff.1 hempty]
  · exact cutAt_append h

/-! ### Characters -/

theorem visible_of_isAlphanumeric (h : isAlphanumeric c) : 0x20 < c.toNat := by
  have := isAlphanumeric_iff.1 h
  omega

theorem IsScheme.visible (h : IsScheme scheme) : ∀ c ∈ scheme, 0x20 < c.toNat := by
  have hsigns : ∀ c ∈ ['+', '-', '.'], 0x20 < c.toNat := by simp
  intro c hc
  have hchar := h.chars c hc
  rw [isSchemeChar, Bool.or_eq_true] at hchar
  obtain hc | hc := hchar
  · exact visible_of_isAlphanumeric hc
  · exact hsigns c (List.contains_iff_mem.1 hc)

theorem visible_of_allows (hsigns : ∀ c ∈ q.safe ++ q.kept, 0x20 < c.toNat) (h : q.allows c) :
    0x20 < c.toNat := by
  have hcommon : ∀ c ∈ "-._~!$'()*,".toList ++ "+&=;".toList, 0x20 < c.toNat := by simp
  simp only [Quoting.allows, Bool.or_eq_true, Bool.and_eq_true, List.contains_iff_mem] at h
  obtain (((h | h) | ⟨-, h⟩) | h) | h := h
  · exact visible_of_isAlphanumeric h
  · exact hcommon c (List.mem_append_left _ h)
  · exact hcommon c (List.mem_append_right _ h)
  · exact hsigns c (List.mem_append_left _ h)
  · exact hsigns c (List.mem_append_right _ h)

/-! ### URLs that are written as they are -/

/-- A URL all whose parts are written as they are. Its port is not one that goes without saying. -/
structure IsPlain (u : Url) (host : List Char) : Prop where
  scheme : IsScheme u.scheme
  authority : u.authority.IsPlain host
  kept : Host.IsKept host
  user : ∀ user ∈ u.authority.user, userQuoting.requote user = user
  password : ∀ password ∈ u.authority.password, userQuoting.requote password = password
  port : ∀ n ∈ u.authority.port, defaultPort? u.scheme ≠ some n
  absolute : u.path.head? = some '/'
  path : pathQuoting.Keeps u.path
  dotless : '.' ∉ u.path
  query : queryQuoting.Keeps u.query
  fragment : u.fragment = []

namespace IsPlain

variable {u : Url} {host : List Char} (h : u.IsPlain host)
include h

theorem text_eq : u.text = u.scheme ++ ':' :: ('/' :: '/' :: u.authority.text ++
    (u.path ++ if u.query.isEmpty then [] else '?' :: u.query)) := by
  have hauthority : u.writtenAuthority = u.authority := by
    rw [writtenAuthority]
    split
    next n hn => rw [if_neg (h.port n hn)]
    · rfl
  have hpath : u.path ≠ [] := by
    intro hnil
    have := h.absolute
    rw [hnil] at this
    cases this
  have hwritten : u.writtenPath = u.path := by
    rw [writtenPath, if_neg (by simp [hpath])]
  have hscheme := h.scheme.nonempty
  have hpresent := h.authority.text_ne_nil
  simp only [text, hauthority, hwritten, h.absolute, h.fragment, List.isEmpty_iff, hscheme,
    hpresent, hpath, Bool.not_eq_true', List.isEmpty_eq_false_iff, ne_eq, not_false_eq_true,
    true_or, or_true, if_true, if_false]
  simp only [List.append_assoc, List.cons_append, List.nil_append, List.append_nil]

theorem visible : ∀ c ∈ u.text, 0x20 < c.toNat := by
  have hpath : ∀ c ∈ u.path, 0x20 < c.toNat := fun c hc =>
    visible_of_allows (q := pathQuoting) (by simp [pathQuoting]) (h.path c hc).1
  have hquery : ∀ c ∈ u.query, 0x20 < c.toNat := fun c hc =>
    visible_of_allows (q := queryQuoting) (by simp [queryQuoting]) (h.query c hc).1
  have hauthority : ∀ c ∈ u.authority.text, 0x20 < c.toNat := fun c hc =>
    (isAuthorityChar_spec (h.authority.isAuthorityChar_of_mem hc)).1
  have hbehind : ∀ c ∈ if u.query.isEmpty then [] else '?' :: u.query, 0x20 < c.toNat := by
    split
    · nofun
    · exact List.forall_mem_cons.2 ⟨by decide, hquery⟩
  rw [h.text_eq]
  simp only [List.forall_mem_append, List.forall_mem_cons]
  exact ⟨h.scheme.visible, by decide, ⟨by decide, by decide, hauthority⟩, hpath, hbehind⟩

/-- A URL that is written as it is is read from its text. -/
theorem ofText?_text : ofText? u.text = some u := by
  have hpath : '?' ∉ u.path ∧ '#' ∉ u.path :=
    ⟨fun hc => absurd (h.path _ hc).1 (by decide), fun hc => absurd (h.path _ hc).1 (by decide)⟩
  have hquery : '#' ∉ u.query := fun hc => absurd (h.query _ hc).1 (by decide)
  have hbehind : '#' ∉ u.path ++ if u.query.isEmpty then [] else '?' :: u.query := by
    split <;> simp [hpath, hquery]
  have hends : ∀ c ∈ (u.path ++ if u.query.isEmpty then [] else '?' :: u.query).head?,
      endsAuthority c := by
    rw [List.head?_append, h.absolute]
    rintro _ ⟨⟩
    decide
  have hclean : cleanPath u.path = u.path := by
    rw [cleanPath, if_neg (mt List.contains_iff_mem.1 h.dotless)]
  rw [ofText?, stripped_eq h.visible, h.text_eq, h.scheme.cutScheme_append]
  simp only [cutAuthority_written (fun c hc =>
    (isAuthorityChar_spec (h.authority.isAuthorityChar_of_mem hc)).2.1) hends,
    cutAt_of_notMem hbehind, cutAt_query hpath.1,
    h.authority.readAuthority?_text u.scheme h.kept h.user h.password, Option.bind_eq_bind,
    Option.bind_some, h.path.requote_eq, h.query.requote_eq, hclean, ite_self]
  rw [Quoting.requote, ← h.fragment]

end IsPlain

end SqlCluster.Url
