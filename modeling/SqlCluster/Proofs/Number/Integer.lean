import SqlCluster.Proofs.Number.Numeral
import SqlCluster.Proofs.Text.Blank

/-!
Integers written as text. `Numeral.Denotes` is the grammar: blanks, a sign or none, digits of any
scripts with single underscores between them, and blanks again. An integer is read from a text
exactly if the text denotes it (`Numeral.readInt?_trim_eq_some_iff`); its decimal form behind any
zeros is such a text (`Numeral.Denotes.decimal`).
-/

namespace SqlCluster.Numeral

open Text

variable {s body digits : List Char} {ds : List Nat} {c : Char} {d : Nat} {n : Int}

/-! ### The grammar -/

/-- Digits of any scripts with single underscores between them, and the values of the digits. -/
inductive Digits : List Char → List Nat → Prop
  | last {c : Char} {d : Nat} : decimalValue? c = some d → Digits [c] [d]
  | next {c : Char} {d : Nat} {s : List Char} {ds : List Nat} : decimalValue? c = some d →
    Digits s ds → Digits (c :: s) (d :: ds)
  | underscore {c : Char} {d : Nat} {s : List Char} {ds : List Nat} : decimalValue? c = some d →
    Digits s ds → Digits (c :: '_' :: s) (d :: ds)

/-- A sign, and whether it is minus. -/
inductive Sign : List Char → Bool → Prop
  | absent : Sign [] false
  | plus : Sign ['+'] false
  | minus : Sign ['-'] true

/-- A text with no more digits than may be read, and the integer that it denotes. -/
inductive Denotes : List Char → Int → Prop
  | intro {before sign body behind : List Char} {negative : Bool} {ds : List Nat} :
    (∀ c ∈ before, isBlank c) → (∀ c ∈ behind, isBlank c) → Sign sign negative → Digits body ds →
    ds.length ≤ digitLimit →
    Denotes (before ++ (sign ++ body ++ behind)) (Double.signed negative (ofDigits 10 ds))

theorem Digits.ne_nil (h : Digits s ds) : s ≠ [] ∧ ds ≠ [] := by
  cases h <;> exact ⟨List.cons_ne_nil _ _, List.cons_ne_nil _ _⟩

theorem Digits.isBlank_of_mem (h : Digits s ds) : ∀ c ∈ s, isBlank c = false := by
  induction h with
  | last hd => exact List.forall_mem_singleton.2 (isBlank_of_decimalValue? hd)
  | next hd _ ih => exact List.forall_mem_cons.2 ⟨isBlank_of_decimalValue? hd, ih⟩
  | underscore hd _ ih =>
    exact List.forall_mem_cons.2 ⟨isBlank_of_decimalValue? hd, List.forall_mem_cons.2 ⟨rfl, ih⟩⟩

theorem Sign.isBlank_of_mem {negative : Bool} (h : Sign s negative) :
    ∀ c ∈ s, isBlank c = false := by
  cases h <;> simp <;> rfl

/-- ASCII digits are digits. -/
theorem digits_of_isDigit (hne : s ≠ []) (h : ∀ c ∈ s, c.isDigit) :
    Digits s (s.map fun c => c.toNat - 48) := by
  induction s with
  | nil => exact absurd rfl hne
  | cons c s ih =>
    obtain ⟨hc, hs⟩ := List.forall_mem_cons.1 h
    cases s with
    | nil => exact .last (decimalValue?_of_isDigit hc)
    | cons c' s => exact .next (decimalValue?_of_isDigit hc) (ih (List.cons_ne_nil _ _) hs)

/-- The decimal form of a number denotes it, with zeros before it too. -/
theorem Denotes.decimal {before sign behind : List Char} {negative : Bool} {k n : Nat}
    (hbefore : ∀ c ∈ before, isBlank c) (hbehind : ∀ c ∈ behind, isBlank c)
    (hsign : Sign sign negative) (hlen : k + (Nat.toDigits 10 n).length ≤ digitLimit) :
    Denotes (before ++ (sign ++ (List.replicate k '0' ++ Nat.toDigits 10 n) ++ behind))
      (Double.signed negative n) := by
  have hdigits : ∀ c ∈ List.replicate k '0' ++ Nat.toDigits 10 n, c.isDigit := by
    intro c hc
    obtain hc | hc := List.mem_append.1 hc
    · exact isDigit_of_mem_zeros c hc
    · exact isDigit_of_mem_toDigits c hc
  have hvalue : digitsValue (List.replicate k '0' ++ Nat.toDigits 10 n) = n := by
    rw [digitsValue_append, digitsValue_zeros, digitsValue_toDigits, Nat.zero_mul, Nat.zero_add]
  have hne : List.replicate k '0' ++ Nat.toDigits 10 n ≠ [] :=
    List.append_ne_nil_of_right_ne_nil _ Nat.toDigits_ne_nil
  have hdenotes := Denotes.intro hbefore hbehind hsign (digits_of_isDigit hne hdigits)
    (by simpa using hlen)
  rwa [← digitsValue, hvalue] at hdenotes

/-! ### Plain characters -/

theorem plainChar_of_lt (h : c.toNat < 128) : plainChar c = c := if_pos h

theorem plainChar_of_decimalValue? (h : decimalValue? c = some d) :
    plainChar c = Nat.digitChar d ∧ d < 10 := by
  obtain ⟨hdigit, rfl⟩ | ⟨hbeyond, z, -, -, hd⟩ := decimalValue?_eq_some h
  · have hc := toNat_of_isDigit hdigit
    refine ⟨?_, by omega⟩
    rw [plainChar_of_lt (by omega), digitChar_of_isDigit hdigit]
  · refine ⟨?_, hd⟩
    rw [plainChar, if_neg (by omega), isBlank_of_decimalValue? h, h]
    rfl

/-- What a character beyond ASCII becomes: a space, a digit or a question mark. -/
theorem plainChar_of_le (h : 128 ≤ c.toNat) : plainChar c = ' ' ∧ isBlank c ∨
    (∃ d, decimalValue? c = some d ∧ d < 10 ∧ plainChar c = Nat.digitChar d) ∨
      plainChar c = '?' := by
  cases hd : decimalValue? c with
  | some d =>
    obtain ⟨hplain, hlt⟩ := plainChar_of_decimalValue? hd
    exact .inr (.inl ⟨d, rfl, hlt, hplain⟩)
  | none =>
    rw [plainChar, if_neg (by omega), hd]
    cases isBlank c with
    | true => exact .inl ⟨rfl, rfl⟩
    | false => exact .inr (.inr rfl)

theorem exists_decimalValue?_of_isDigit (h : (plainChar c).isDigit) :
    ∃ d, decimalValue? c = some d := by
  obtain hlt | hle := Nat.lt_or_ge c.toNat 128
  · rw [plainChar_of_lt hlt] at h
    exact ⟨_, decimalValue?_of_isDigit h⟩
  · obtain ⟨hplain, -⟩ | ⟨d, hd, -⟩ | hplain := plainChar_of_le hle
    · rw [hplain] at h
      cases h
    · exact ⟨d, hd⟩
    · rw [hplain] at h
      cases h

theorem isBlank_of_plainChar (h : isAsciiBlank (plainChar c)) : isBlank c := by
  obtain hlt | hle := Nat.lt_or_ge c.toNat 128
  · rw [plainChar_of_lt hlt] at h
    simp only [isAsciiBlank, isBlank, Bool.or_eq_true, Bool.and_eq_true, decide_eq_true_eq,
      beq_iff_eq] at h ⊢
    omega
  · have hdigits : ∀ d < 10, isAsciiBlank (Nat.digitChar d) = false := by decide
    obtain ⟨-, hblank⟩ | ⟨d, -, hd, hplain⟩ | hplain := plainChar_of_le hle
    · exact hblank
    · rw [hplain, hdigits d hd] at h
      cases h
    · rw [hplain] at h
      cases h

/-- Signs and underscores stand for themselves, and nothing else stands for them. -/
theorem plainChar_eq_iff {mark : Char} (hmark : mark = '_' ∨ mark = '+' ∨ mark = '-') :
    plainChar c = mark ↔ c = mark := by
  have hascii : mark.toNat < 128 := by obtain rfl | rfl | rfl := hmark <;> decide
  have hdigits : ∀ d < 10, Nat.digitChar d ≠ mark := by obtain rfl | rfl | rfl := hmark <;> decide
  obtain hlt | hle := Nat.lt_or_ge c.toNat 128
  · rw [plainChar_of_lt hlt]
  · refine iff_of_false ?_ (by rintro rfl; omega)
    obtain ⟨hplain, -⟩ | ⟨d, -, hd, hplain⟩ | hplain := plainChar_of_le hle
    · rw [hplain]
      obtain rfl | rfl | rfl := hmark <;> decide
    · rw [hplain]
      exact hdigits d hd
    · rw [hplain]
      obtain rfl | rfl | rfl := hmark <;> decide

/-- A text that is trimmed needs no trimming once its characters are plain. -/
theorem plain_of_isTrimmed (h : IsTrimmed isBlank s) : plain s = s.map plainChar := by
  have hplain (c : Char) (hc : isBlank c = false) : isAsciiBlank (plainChar c) = false := by
    refine Bool.eq_false_iff.2 fun hblank => ?_
    rw [isBlank_of_plainChar hblank] at hc
    cases hc
  by_cases hne : s = []
  · rw [hne]
    rfl
  have htrimmed : IsTrimmed isAsciiBlank (s.map plainChar) := by
    constructor
    · intro c hc
      rw [List.head?_map] at hc
      obtain ⟨b, hb, rfl⟩ := Option.map_eq_some_iff.1 hc
      exact hplain b (h.head b hb)
    · intro c hc
      rw [List.getLast?_map] at hc
      obtain ⟨b, hb, rfl⟩ := Option.map_eq_some_iff.1 hc
      exact hplain b (h.last b hb)
  have htrim := @trim_append isAsciiBlank [] [] _ htrimmed (by simpa using hne)
    (List.forall_mem_nil _) (List.forall_mem_nil _)
  rwa [List.append_nil] at htrim

/-! ### Signs -/

theorem cutSign_of_ne (hminus : c ≠ '-') (hplus : c ≠ '+') :
    cutSign (plainChar c :: s) = (false, plainChar c :: s) := by
  unfold cutSign
  split
  next heq => exact absurd ((plainChar_eq_iff (by simp)).1 (List.cons.inj heq).1) hminus
  next heq => exact absurd ((plainChar_eq_iff (by simp)).1 (List.cons.inj heq).1) hplus
  next => rfl

theorem exists_sign (s : List Char) : ∃ sign body, s = sign ++ body ∧
    Sign sign (cutSign (s.map plainChar)).1 ∧
      (cutSign (s.map plainChar)).2 = body.map plainChar := by
  rcases s with - | ⟨c, s⟩
  · exact ⟨[], [], rfl, .absent, rfl⟩
  by_cases hminus : c = '-'
  · subst hminus
    exact ⟨['-'], s, rfl, .minus, rfl⟩
  by_cases hplus : c = '+'
  · subst hplus
    exact ⟨['+'], s, rfl, .plus, rfl⟩
  rw [List.map_cons, cutSign_of_ne hminus hplus]
  exact ⟨[], c :: s, rfl, .absent, rfl⟩

theorem Sign.cutSign {sign : List Char} {negative : Bool} (h : Sign sign negative)
    (hbody : Digits body ds) :
    Numeral.cutSign ((sign ++ body).map plainChar) = (negative, body.map plainChar) := by
  cases h with
  | plus | minus => rfl
  | absent =>
    obtain ⟨c, d, t, rfl, hd⟩ : ∃ c d t, body = c :: t ∧ decimalValue? c = some d := by
      cases hbody <;> exact ⟨_, _, _, rfl, ‹_›⟩
    have hmark (mark : Char) (h : decimalValue? mark = none) : c ≠ mark := by
      rintro rfl
      rw [h] at hd
      cases hd
    exact cutSign_of_ne (hmark '-' rfl) (hmark '+' rfl)

/-! ### Underscores -/

theorem withoutUnderscores?_cons {last : Option Char} (h : c.isDigit) :
    withoutUnderscores? last (c :: s) = (withoutUnderscores? (some c) s).map (c :: ·) := by
  have hc : c ≠ '_' := by
    rintro rfl
    cases h
  simp [withoutUnderscores?, hc, h]

/-- Digits with underscores between them lose the underscores. -/
theorem Digits.withoutUnderscores? (h : Digits s ds) (last : Option Char) :
    withoutUnderscores? last (s.map plainChar) = some (ds.map Nat.digitChar) := by
  have hdigit (c : Char) (d : Nat) (hd : decimalValue? c = some d) :
      plainChar c = Nat.digitChar d ∧ (plainChar c).isDigit := by
    obtain ⟨hplain, hlt⟩ := plainChar_of_decimalValue? hd
    exact ⟨hplain, hplain ▸ isDigit_digitChar hlt⟩
  induction h generalizing last with
  | @last c d hd =>
    obtain ⟨hplain, hisDigit⟩ := hdigit c d hd
    have hne : plainChar c ≠ '_' := by
      intro heq
      rw [heq] at hisDigit
      cases hisDigit
    rw [List.map_singleton, withoutUnderscores?_cons hisDigit, Numeral.withoutUnderscores?,
      if_neg (by simpa using hne), hplain]
    rfl
  | next hd _ ih =>
    obtain ⟨hplain, hisDigit⟩ := hdigit _ _ hd
    rw [List.map_cons, withoutUnderscores?_cons hisDigit, ih, hplain]
    rfl
  | underscore hd _ ih =>
    obtain ⟨hplain, hisDigit⟩ := hdigit _ _ hd
    have hmark : plainChar '_' = '_' := rfl
    rw [List.map_cons, List.map_cons, withoutUnderscores?_cons hisDigit, hmark,
      Numeral.withoutUnderscores?, if_pos rfl, Option.any_some, if_pos hisDigit, ih, hplain]
    rfl

theorem exists_rest {last : Option Char} (hc : c ≠ '_')
    (h : withoutUnderscores? last (c :: s) = some digits) (hdigits : ∀ c ∈ digits, c.isDigit) :
    ∃ rest, digits = c :: rest ∧ c.isDigit ∧ (∀ c ∈ rest, c.isDigit) ∧
      withoutUnderscores? (some c) s = some rest := by
  rw [withoutUnderscores?, if_neg hc] at h
  split at h
  · cases h
  obtain ⟨rest, hrest, rfl⟩ := Option.map_eq_some_iff.1 h
  obtain ⟨hdigit, hdigits⟩ := List.forall_mem_cons.1 hdigits
  exact ⟨rest, rfl, hdigit, hdigits, hrest⟩

theorem withoutUnderscores?_underscore_eq_some (h : withoutUnderscores? (some c) ('_' :: s) =
    some digits) : c.isDigit ∧ withoutUnderscores? (some '_') s = some digits := by
  rw [withoutUnderscores?, if_pos rfl, Option.any_some] at h
  exact Option.ite_none_right_eq_some.1 h

/-- What loses its underscores and leaves digits is made of digits with underscores between
them. -/
theorem exists_digits {last : Option Char} (hne : s ≠ []) (hhead : ∀ c ∈ s.head?, c ≠ '_')
    (h : withoutUnderscores? last (s.map plainChar) = some digits)
    (hdigits : ∀ c ∈ digits, c.isDigit) : ∃ ds, Digits s ds ∧ digits = ds.map Nat.digitChar := by
  -- behind a digit the text goes on with a digit or with an underscore and then a digit
  induction hlen : s.length using Nat.strongRecOn generalizing s last digits with
  | ind k ih =>
    obtain ⟨c, s, rfl⟩ := List.exists_cons_of_ne_nil hne
    have hc : plainChar c ≠ '_' := mt (plainChar_eq_iff (.inl rfl)).1 (hhead c rfl)
    obtain ⟨rest, rfl, hdigit, hrest, h⟩ := exists_rest hc h hdigits
    obtain ⟨d, hd⟩ := exists_decimalValue?_of_isDigit hdigit
    have hplain := (plainChar_of_decimalValue? hd).1
    rcases s with - | ⟨e, s⟩
    · rw [List.map_nil, withoutUnderscores?, if_neg (by simpa using hc)] at h
      cases h
      exact ⟨[d], .last hd, by rw [hplain]; rfl⟩
    by_cases he : e = '_'
    · subst he
      obtain ⟨-, h⟩ := withoutUnderscores?_underscore_eq_some h
      have hne : s ≠ [] := by
        rintro rfl
        cases h
      have hhead : ∀ c ∈ s.head?, c ≠ '_' := by
        rintro c hc rfl
        obtain ⟨t, rfl⟩ := List.head?_eq_some_iff.1 hc
        exact absurd (withoutUnderscores?_underscore_eq_some h).1 (by decide)
      obtain ⟨ds, hds, rfl⟩ := ih s.length (by simp at hlen; omega) hne hhead h hrest rfl
      exact ⟨d :: ds, .underscore hd hds, by rw [hplain]; rfl⟩
    · have hhead : ∀ c ∈ (e :: s).head?, c ≠ '_' := by
        rintro c ⟨⟩
        exact he
      obtain ⟨ds, hds, rfl⟩ :=
        ih (e :: s).length (by simp at hlen ⊢; omega) (List.cons_ne_nil _ _) hhead h hrest rfl
      exact ⟨d :: ds, .next hd hds, by rw [hplain]; rfl⟩

/-! ### Reading -/

theorem digitsValue_digitChar (h : ∀ d ∈ ds, d < 10) :
    digitsValue (ds.map Nat.digitChar) = ofDigits 10 ds := by
  have hdigits : ∀ d < 10, (Nat.digitChar d).toNat - 48 = d := by decide
  rw [digitsValue, List.map_map]
  refine congrArg (ofDigits 10) ((List.map_congr_left fun d hd => ?_).trans ds.map_id)
  exact hdigits d (h d hd)

theorem Digits.lt_ten (h : Digits s ds) : ∀ d ∈ ds, d < 10 := by
  induction h with
  | last hd => exact List.forall_mem_singleton.2 (plainChar_of_decimalValue? hd).2
  | next hd _ ih | underscore hd _ ih =>
    exact List.forall_mem_cons.2 ⟨(plainChar_of_decimalValue? hd).2, ih⟩

/-- A sign and digits, with no more of these than may be read, are what is read as an integer. -/
theorem readInt?_eq_some_iff (h : IsTrimmed isBlank s) : readInt? s = some n ↔
    ∃ sign negative body ds, s = sign ++ body ∧ Sign sign negative ∧ Digits body ds ∧
      ds.length ≤ digitLimit ∧ n = Double.signed negative (ofDigits 10 ds) := by
  rw [readInt?_eq_some, plain_of_isTrimmed h]
  constructor
  · rintro ⟨digits, hread, hne, hdigits, hlen, rfl⟩
    obtain ⟨sign, body, rfl, hsign, hbody⟩ := exists_sign s
    rw [hbody] at hread
    have hnil : body ≠ [] := by
      rintro rfl
      cases hread
      exact hne rfl
    have hhead : ∀ c ∈ body.head?, c ≠ '_' := by
      rintro c hc rfl
      obtain ⟨t, rfl⟩ := List.head?_eq_some_iff.1 hc
      cases hread
    obtain ⟨ds, hds, rfl⟩ := exists_digits hnil hhead hread hdigits
    rw [List.length_map] at hlen
    exact ⟨sign, _, body, ds, rfl, hsign, hds, hlen, by rw [digitsValue_digitChar hds.lt_ten]⟩
  · rintro ⟨sign, negative, body, ds, rfl, hsign, hds, hlen, rfl⟩
    have hdigits : ∀ c ∈ ds.map Nat.digitChar, c.isDigit := by
      intro c hc
      obtain ⟨d, hd, rfl⟩ := List.mem_map.1 hc
      exact isDigit_digitChar (hds.lt_ten d hd)
    rw [hsign.cutSign hds]
    refine ⟨ds.map Nat.digitChar, hds.withoutUnderscores? none, ?_, hdigits, ?_, ?_⟩
    · exact mt List.map_eq_nil_iff.1 hds.ne_nil.2
    · rwa [List.length_map]
    · rw [digitsValue_digitChar hds.lt_ten]

/-- An integer is read from a text, the blanks around it put aside, exactly if the text denotes
it. -/
theorem readInt?_trim_eq_some_iff : readInt? (trim isBlank s) = some n ↔ Denotes s n := by
  constructor
  · intro hread
    obtain ⟨before, behind, hs, hbefore, hbehind, htrimmed⟩ := exists_trim isBlank s
    obtain ⟨sign, negative, body, ds, htrim, hsign, hds, hlen, rfl⟩ :=
      (readInt?_eq_some_iff htrimmed).1 hread
    rw [hs, htrim]
    exact .intro hbefore hbehind hsign hds hlen
  · intro h
    cases h with
    | @intro before sign body behind negative ds hbefore hbehind hsign hds hlen =>
      have htrimmed : IsTrimmed isBlank (sign ++ body) := by
        refine isTrimmed_of_forall fun c hc => ?_
        obtain hc | hc := List.mem_append.1 hc
        · exact hsign.isBlank_of_mem c hc
        · exact hds.isBlank_of_mem c hc
      have hne : sign ++ body ≠ [] := List.append_ne_nil_of_right_ne_nil _ hds.ne_nil.1
      rw [trim_append htrimmed hne hbefore hbehind]
      exact (readInt?_eq_some_iff htrimmed).2
        ⟨sign, negative, body, ds, rfl, hsign, hds, hlen, rfl⟩

end SqlCluster.Numeral
