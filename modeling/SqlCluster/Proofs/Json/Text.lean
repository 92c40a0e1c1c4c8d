import SqlCluster.Json.Reader
import SqlCluster.Json.Writer

/-!
Texts of a document read back. Every character that is written inside quotes is read as itself: as
it stands, by the letter or the code of its escape, or by the two escapes of its surrogate pair
(`readText_writeChar`). So a text is read back up to its closing quote (`readText_writeText`).
-/

namespace SqlCluster.Json

open Text

variable {n high low opening : Nat} {c next : Char} {s rest : List Char}

/-! ### Codes -/

theorem hexPadded_four (hn : n < 65536) : hexPadded 4 n =
    [hexDigit (n / 4096), hexDigit (n / 256 % 16), hexDigit (n / 16 % 16), hexDigit (n % 16)] := by
  have hstep : ∀ m, 16 ≤ m → Nat.toDigits 16 m = Nat.toDigits 16 (m / 16) ++ [hexDigit (m % 16)] :=
    fun m hm => Nat.toDigits_of_base_le (by decide) hm
  have hlast : ∀ m, m < 16 → Nat.toDigits 16 m = [hexDigit m] :=
    fun m hm => Nat.toDigits_of_lt_base hm
  have hzero : hexDigit 0 = '0' := rfl
  rw [hexPadded]
  by_cases h₁ : n < 16
  · have : n / 4096 = 0 ∧ n / 256 % 16 = 0 ∧ n / 16 % 16 = 0 ∧ n % 16 = n := by omega
    simp [hlast n h₁, this, hzero, List.replicate]
  rw [hstep n (by omega)]
  by_cases h₂ : n / 16 < 16
  · have : n / 4096 = 0 ∧ n / 256 % 16 = 0 ∧ n / 16 % 16 = n / 16 := by omega
    simp [hlast _ h₂, this, hzero, List.replicate]
  rw [hstep (n / 16) (by omega)]
  by_cases h₃ : n / 16 / 16 < 16
  · have : n / 4096 = 0 ∧ n / 256 % 16 = n / 16 / 16 := by omega
    simp [hlast _ h₃, this, hzero]
  · have : n / 16 / 16 / 16 = n / 4096 ∧ n / 16 / 16 = n / 256 := by omega
    rw [hstep (n / 16 / 16) (by omega), hlast (n / 16 / 16 / 16) (by omega), this.1, this.2]
    rfl

theorem hexValue?_hexDigit (hn : n < 16) : hexValue? (hexDigit n) = some n := by
  revert n
  decide

theorem exists_code (hn : n < 65536) :
    ∃ a b c d, hexPadded 4 n = [a, b, c, d] ∧ code? a b c d = some n := by
  refine ⟨_, _, _, _, hexPadded_four hn, ?_⟩
  rw [code?]
  simp [hexValue?_hexDigit, Nat.mod_lt, ofDigits, show n / 4096 < 16 by omega]
  omega

/-! ### Escapes -/

theorem readText_codeEscape (hn : n < 65536) (hhigh : isHighSurrogate n = false) :
    readText opening (codeEscape n ++ next :: s) =
      prepend (loneChar n) (readText opening (next :: s)) := by
  obtain ⟨a, b, c, d, hcode, hvalue⟩ := exists_code hn
  rw [codeEscape, hcode]
  simp only [List.cons_append, List.nil_append]
  rw [readText]
  simp only [hvalue]
  rw [if_neg (by decide), if_pos trivial, if_pos trivial]
  -- whatever follows, the code does not open a surrogate pair
  split
  · rw [if_neg (by simp [hhigh])]
  · rfl

theorem readText_codeEscape_pair (hhigh : isHighSurrogate high) (hlow : isLowSurrogate low) :
    readText opening (codeEscape high ++ codeEscape low ++ next :: s) =
      prepend (joinSurrogates high low) (readText opening (next :: s)) := by
  simp only [isHighSurrogate, isLowSurrogate, Bool.and_eq_true, decide_eq_true_eq] at hhigh hlow
  obtain ⟨a₁, a₂, a₃, a₄, hcode, hvalue⟩ := exists_code (n := high) (by omega)
  obtain ⟨b₁, b₂, b₃, b₄, hcode', hvalue'⟩ := exists_code (n := low) (by omega)
  rw [codeEscape, codeEscape, hcode, hcode']
  simp only [List.cons_append, List.nil_append]
  rw [readText]
  simp only [hvalue, hvalue']
  rw [if_neg (by decide), if_pos trivial, if_pos trivial, if_pos (by simp [isHighSurrogate, hhigh]),
    if_pos (by simp [isLowSurrogate, hlow])]

theorem readText_escaped {e d : Char} (hd : escaped? e = some d) (hu : e ≠ 'u') :
    readText opening ('\\' :: e :: s) = prepend d (readText opening s) := by
  rw [readText.eq_def]
  simp only [hd]
  rw [if_neg (by decide), if_pos trivial, if_neg hu]

theorem readText_plain (hquote : c ≠ '"') (hslash : c ≠ '\\') (hspace : ' ' ≤ c) :
    readText opening (c :: s) = prepend c (readText opening s) := by
  rw [readText.eq_def]
  simp only [hquote, hslash, if_false]
  rw [if_neg (by rw [Char.lt_def]; exact UInt32.not_lt.2 hspace)]

/-! ### Texts -/

theorem not_isSurrogate (c : Char) :
    isHighSurrogate c.toNat = false ∧ isLowSurrogate c.toNat = false := by
  have hvalid : c.toNat < 0xd800 ∨ 0xdfff < c.toNat ∧ c.toNat < 0x110000 := c.valid
  simp only [isHighSurrogate, isLowSurrogate, Bool.and_eq_false_iff, decide_eq_false_iff_not]
  omega

/-- A character beyond the sixteen-bit codes is joined from the two halves of its surrogate pair. -/
theorem joinSurrogates_halves (h : 0x10000 ≤ c.toNat) :
    isHighSurrogate (0xd800 + (c.toNat - 0x10000) / 0x400) ∧
      isLowSurrogate (0xdc00 + (c.toNat - 0x10000) % 0x400) ∧
      joinSurrogates (0xd800 + (c.toNat - 0x10000) / 0x400)
        (0xdc00 + (c.toNat - 0x10000) % 0x400) = c := by
  have hvalid : c.toNat < 0xd800 ∨ 0xdfff < c.toNat ∧ c.toNat < 0x110000 := c.valid
  have hvalue : 0x10000 + (0xd800 + (c.toNat - 0x10000) / 0x400 - 0xd800) * 0x400 +
      (0xdc00 + (c.toNat - 0x10000) % 0x400 - 0xdc00) = c.toNat := by omega
  simp only [isHighSurrogate, isLowSurrogate, Bool.and_eq_true, decide_eq_true_eq]
  refine ⟨by omega, by omega, ?_⟩
  rw [joinSurrogates, hvalue, Char.ofNat_toNat]

/-- How a character stands inside quotes. -/
inductive Written (c : Char) : List Char → Prop
  | letter {e : Char} (stands : escaped? e = some c) (uncoded : e ≠ 'u')
      (printable : ' ' ≤ e ∧ e ≤ '~') : Written c ['\\', e]
  | plain (unquoted : c ≠ '"') (unescaped : c ≠ '\\') (printable : ' ' ≤ c ∧ c ≤ '~') :
      Written c [c]
  | code (short : c.toNat < 0x10000) : Written c (codeEscape c.toNat)
  | pair (long : 0x10000 ≤ c.toNat) :
      Written c (codeEscape (0xd800 + (c.toNat - 0x10000) / 0x400) ++
        codeEscape (0xdc00 + (c.toNat - 0x10000) % 0x400))

theorem written_writeChar (c : Char) : Written c (writeChar c) := by
  rw [writeChar]
  split
  case isTrue h =>
    rcases h with rfl | rfl <;> exact .letter rfl (by decide) (by decide)
  rename_i hplain
  rw [not_or] at hplain
  iterate 5
    split
    case isTrue h =>
      subst h
      exact .letter rfl (by decide) (by decide)
  split
  case isTrue h => exact .plain hplain.1 hplain.2 h
  split
  case isTrue h => exact .code h
  case isFalse h => exact .pair (Nat.not_lt.1 h)

/-- A character inside quotes is read as itself, if something follows it. -/
theorem readText_writeChar (c : Char) (hs : s ≠ []) :
    readText opening (writeChar c ++ s) = prepend c (readText opening s) := by
  obtain ⟨next, t, rfl⟩ := List.exists_cons_of_ne_nil hs
  have hwritten := written_writeChar c
  generalize writeChar c = w at hwritten ⊢
  cases hwritten with
  | letter stands uncoded _ => exact readText_escaped stands uncoded
  | plain unquoted unescaped printable => exact readText_plain unquoted unescaped printable.1
  | code short =>
    obtain ⟨hhigh, hlow⟩ := not_isSurrogate c
    rw [readText_codeEscape short hhigh, loneChar, hhigh, hlow, if_neg (by decide),
      Char.ofNat_toNat]
  | pair long =>
    obtain ⟨hhigh, hlow, hjoin⟩ := joinSurrogates_halves long
    rw [readText_codeEscape_pair hhigh hlow, hjoin]

/-- A text is read back up to its closing quote. The induction is on its characters. -/
theorem readText_writeText (opening : Nat) (s rest : List Char) :
    readText opening (s.flatMap writeChar ++ '"' :: rest) = .ok (s, rest) := by
  induction s with
  | nil =>
    rw [List.flatMap_nil, List.nil_append, readText.eq_def]
    rfl
  | cons c s ih =>
    rw [List.flatMap_cons, List.append_assoc, readText_writeChar c (by simp), ih]
    rfl

end SqlCluster.Json
