import SqlCluster.Proofs.Text.Utf8
import SqlCluster.Url.Percent

/-!
Escapes and back. A text is escaped by writing the characters of a class as they are and the bytes
of all others as escapes (`escaped`). Whichever class of ASCII characters without the percent sign
that is, undoing the escapes gives the text again, in either way of undoing them
(`unquote_escaped`, `unquoteLossy_escaped`). Quoting is such an escaping, and what is quoted stays
as it is where it is quoted again (`requote_quote`).
-/

namespace SqlCluster.Url

open Text

/-! ### Escapes of bytes -/

theorem hexValue?_capitalDigit : ∀ n < 16, hexValue? (capitalDigit n) = some n := by decide

theorem byte?_capitalDigit (b : UInt8) :
    byte? (capitalDigit (b.toNat / 16)) (capitalDigit (b.toNat % 16)) = some b := by
  have hlt := b.toNat_lt
  rw [byte?, hexValue?_capitalDigit _ (by omega), hexValue?_capitalDigit _ (by omega)]
  simp only [Option.bind_eq_bind, Option.bind_some, Option.some.injEq]
  rw [show b.toNat / 16 * 16 + b.toNat % 16 = b.toNat by omega, UInt8.ofNat_toNat]

/-- The escapes of bytes, one after the other. -/
def escapes (bytes : List UInt8) : List Char := bytes.flatMap escape

theorem escapes_cons (b : UInt8) (bytes : List UInt8) : escapes (b :: bytes) =
    '%' :: capitalDigit (b.toNat / 16) :: capitalDigit (b.toNat % 16) :: escapes bytes := rfl

theorem unquoteAfter_escapes (run : List (UInt8 × List Char)) (bytes : List UInt8)
    (t : List Char) :
    unquoteAfter run (escapes bytes ++ t) =
      unquoteAfter (run ++ bytes.map fun b => (b, escape b)) t := by
  induction bytes generalizing run with
  | nil => simp [escapes]
  | cons b bytes ih =>
    rw [escapes_cons]
    simp only [List.cons_append]
    rw [unquoteAfter.eq_def]
    simp only [if_true, byte?_capitalDigit]
    rw [ih, List.map_cons, List.append_assoc]
    rfl

theorem unquoteLossyAfter_escapes (run bytes : List UInt8) (t : List Char) :
    unquoteLossyAfter run (escapes bytes ++ t) = unquoteLossyAfter (run ++ bytes) t := by
  have hpercent : ¬ 128 ≤ '%'.toNat := by decide
  induction bytes generalizing run with
  | nil => simp [escapes]
  | cons b bytes ih =>
    rw [escapes_cons]
    simp only [List.cons_append]
    rw [unquoteLossyAfter.eq_def]
    simp only [if_neg hpercent, if_true, byte?_capitalDigit]
    rw [ih, List.append_assoc, List.singleton_append]

/-- Escapes of bytes that may not stand for themselves are kept. -/
theorem requote_escapes (q : Quoting) {bytes : List UInt8} (t : List Char)
    (h : ∀ b ∈ bytes, q.normalize b = escape b) :
    q.requote (escapes bytes ++ t) = escapes bytes ++ q.requote t := by
  induction bytes with
  | nil => simp [escapes]
  | cons b bytes ih =>
    simp only [List.forall_mem_cons] at h
    rw [escapes_cons]
    simp only [List.cons_append]
    rw [Quoting.requote.eq_def]
    simp only [if_true, byte?_capitalDigit, h.1, ih h.2]
    rfl

/-! ### Escaped texts -/

/-- A character as it is, if it is one of a class, and else the escapes of its bytes. -/
def escapedChar (plain : Char → Bool) (c : Char) : List Char :=
  if plain c then [c] else escapes (Utf8.encodeChar c)

/-- A text in which all characters but those of a class are escaped. -/
def escaped (plain : Char → Bool) (s : List Char) : List Char := s.flatMap (escapedChar plain)

/-- The characters of a class can stand for themselves: they are in ASCII, and none begins an
escape. -/
def StandAlone (plain : Char → Bool) : Prop := ∀ c, plain c → c.toNat < 128 ∧ c ≠ '%'

variable {plain : Char → Bool} {c : Char} {s : List Char}

@[simp] theorem escaped_nil (plain : Char → Bool) : escaped plain [] = [] := rfl

theorem escaped_cons (plain : Char → Bool) (c : Char) (s : List Char) :
    escaped plain (c :: s) = escapedChar plain c ++ escaped plain s := rfl

/-- A character of an escaped text is one of the class, a percent sign or a digit. -/
theorem mem_escaped (h : c ∈ escaped plain s) :
    plain c ∨ c = '%' ∨ ∃ n < 16, c = capitalDigit n := by
  obtain ⟨d, -, hc⟩ := List.mem_flatMap.1 h
  rw [escapedChar] at hc
  split at hc
  next hplain =>
    rw [List.mem_singleton.1 hc]
    exact .inl hplain
  · obtain ⟨b, -, hc⟩ := List.mem_flatMap.1 hc
    have hlt := b.toNat_lt
    simp only [escape, List.mem_cons, List.not_mem_nil, or_false] at hc
    obtain rfl | rfl | rfl := hc
    · exact .inr (.inl rfl)
    · exact .inr (.inr ⟨b.toNat / 16, by omega, rfl⟩)
    · exact .inr (.inr ⟨b.toNat % 16, by omega, rfl⟩)

theorem rebuild_map_ok (written : List (List Char)) (s : List Char) :
    rebuild written (s.map .ok) = s := by
  induction s generalizing written with
  | nil => rfl
  | cons c s ih => rw [List.map_cons, rebuild, ih]

theorem flush_of_encode {run : List (UInt8 × List Char)} (h : run.map Prod.fst = Utf8.encode s) :
    flush run = s := by
  rw [flush, h, Utf8.scan_encode, rebuild_map_ok]

/-- Behind the bytes of a text, an escaped text is read as what it was. The induction is on the text
that was escaped; the run holds the bytes of those of its characters that were read last. -/
theorem unquoteAfter_escaped (hplain : StandAlone plain) {run : List (UInt8 × List Char)}
    {t : List Char} (hrun : run.map Prod.fst = Utf8.encode t) (s : List Char) :
    unquoteAfter run (escaped plain s) = t ++ s := by
  induction s generalizing run t with
  | nil => rw [escaped_nil, unquoteAfter, flush_of_encode hrun, List.append_nil]
  | cons c s ih =>
    rw [escaped_cons, escapedChar]
    split
    next hc =>
      rw [List.singleton_append, unquoteAfter.eq_def]
      simp only [if_neg (hplain c hc).2, flush_of_encode hrun]
      rw [ih (t := []) rfl, List.nil_append]
    · rw [unquoteAfter_escapes, ih (t := t ++ [c]), List.append_assoc, List.singleton_append]
      rw [List.map_append, hrun, List.map_map, Utf8.encode_concat]
      exact congrArg _ (List.map_id _)

/-- Undoing the escapes of an escaped text gives the text. -/
theorem unquote_escaped (hplain : StandAlone plain) (s : List Char) :
    unquote (escaped plain s) = s :=
  unquoteAfter_escaped (t := []) hplain rfl s

theorem unquoteLossyAfter_escaped (hplain : StandAlone plain) (t s : List Char) :
    unquoteLossyAfter (Utf8.encode t) (escaped plain s) = t ++ s := by
  induction s generalizing t with
  | nil => rw [escaped_nil, unquoteLossyAfter, Utf8.decodeLossy_encode, List.append_nil]
  | cons c s ih =>
    rw [escaped_cons, escapedChar]
    split
    next hc =>
      obtain ⟨hascii, hpercent⟩ := hplain c hc
      rw [List.singleton_append, unquoteLossyAfter.eq_def]
      simp only [if_neg (Nat.not_le.2 hascii), if_neg hpercent]
      rw [← Utf8.encodeChar_of_ascii hascii, ← Utf8.encode_concat, ih, List.append_assoc,
        List.singleton_append]
    · rw [unquoteLossyAfter_escapes, ← Utf8.encode_concat, ih, List.append_assoc,
        List.singleton_append]

/-- Undoing the escapes of an escaped text, whatever bytes they may hold, gives the text. -/
theorem unquoteLossy_escaped (hplain : StandAlone plain) (s : List Char) :
    unquoteLossy (escaped plain s) = s :=
  unquoteLossyAfter_escaped hplain [] s

/-! ### Texts that stand for themselves -/

/-- All characters of a text stand for themselves in a part of a URL. -/
def Quoting.Keeps (q : Quoting) (s : List Char) : Prop := ∀ c ∈ s, q.allows c ∧ c ≠ '%' ∧ c ≠ ' '

instance (q : Quoting) : DecidablePred q.Keeps := fun s =>
  s.decidableBAll _

theorem Quoting.Keeps.quote_eq {q : Quoting} (h : q.Keeps s) : q.quote s = s := by
  rw [Quoting.quote]
  induction s with
  | nil => rfl
  | cons c s ih =>
    obtain ⟨⟨hc, -, hspace⟩, h⟩ := List.forall_mem_cons.1 h
    rw [List.flatMap_cons, ih h, Quoting.quoteChar, if_neg (by simp [hspace]), if_pos hc,
      List.singleton_append]

theorem Quoting.Keeps.requote_eq {q : Quoting} (h : q.Keeps s) : q.requote s = s := by
  induction s with
  | nil => rfl
  | cons c s ih =>
    obtain ⟨⟨hc, hpercent, hspace⟩, h⟩ := List.forall_mem_cons.1 h
    rw [Quoting.requote.eq_def]
    simp only [if_neg hpercent, ih h, Quoting.quoteChar, hc, if_true, beq_eq_false_iff_ne.2 hspace,
      Bool.and_false, Bool.false_eq_true, if_false, List.singleton_append]

theorem unquote_eq_self (h : '%' ∉ s) : unquote s = s := by
  rw [unquote]
  induction s with
  | nil => rfl
  | cons c s ih =>
    simp only [List.mem_cons, not_or] at h
    rw [unquoteAfter.eq_def]
    simp only [if_neg (Ne.symm h.1), ih h.2]
    rfl

/-! ### Quoted texts -/

theorem isAlphanumeric_iff : isAlphanumeric c ↔
    97 ≤ c.toNat ∧ c.toNat ≤ 122 ∨ 65 ≤ c.toNat ∧ c.toNat ≤ 90 ∨ 48 ≤ c.toNat ∧ c.toNat ≤ 57 := by
  simp only [isAlphanumeric, Bool.or_eq_true, Bool.and_eq_true, decide_eq_true_eq, or_assoc]
  rfl

theorem isAlphanumeric_standAlone (h : isAlphanumeric c) : c.toNat < 128 ∧ c ≠ '%' := by
  rw [isAlphanumeric_iff] at h
  refine ⟨by omega, ?_⟩
  rintro rfl
  exact absurd h (by decide)

/-- The characters that a user name or a password is quoted with. -/
theorem userQuoting_allows : userQuoting.allows c ↔
    isAlphanumeric c ∨ c ∈ "-._~!$'()*,+&=;".toList := by
  simp [Quoting.allows, userQuoting, or_assoc]

theorem standAlone_allows : StandAlone userQuoting.allows := by
  have hsigns : ∀ c ∈ "-._~!$'()*,+&=;".toList, c.toNat < 128 ∧ c ≠ '%' := by simp
  intro c hc
  obtain hc | hc := userQuoting_allows.1 hc
  · exact isAlphanumeric_standAlone hc
  · exact hsigns c hc

theorem quote_eq_escaped (s : List Char) : userQuoting.quote s = escaped userQuoting.allows s := by
  refine List.flatMap_congr fun c _ => ?_
  rw [Quoting.quoteChar, if_neg (by simp [userQuoting])]
  rfl

/-- A quoted text is read as what it was. -/
theorem unquote_quote (s : List Char) : unquote (userQuoting.quote s) = s := by
  rw [quote_eq_escaped, unquote_escaped standAlone_allows]

theorem quote_ne_nil (h : s ≠ []) : userQuoting.quote s ≠ [] := by
  intro hnil
  have hread := unquote_quote s
  rw [hnil] at hread
  exact h hread.symm

theorem allows_capitalDigit : ∀ n < 16, userQuoting.allows (capitalDigit n) := by decide

/-- A quoted user or password holds characters that stand for themselves, and escapes. -/
theorem allows_of_mem_quote (h : c ∈ userQuoting.quote s) : userQuoting.allows c ∨ c = '%' := by
  rw [quote_eq_escaped] at h
  obtain h | h | ⟨n, hn, rfl⟩ := mem_escaped h
  · exact .inl h
  · exact .inr h
  · exact .inl (allows_capitalDigit n hn)

theorem colon_notMem_quote (s : List Char) : ':' ∉ userQuoting.quote s := fun h =>
  absurd (allows_of_mem_quote h) (by decide)

/-- Bytes of a character that may not stand for itself do not stand for themselves. -/
theorem normalize_of_mem_encodeChar {q : Quoting} {b : UInt8} (hc : q.allows c = false)
    (hb : b ∈ Utf8.encodeChar c) : q.normalize b = escape b := by
  rw [Quoting.normalize, if_neg]
  rintro ⟨hascii, hallows, -⟩
  rw [Utf8.eq_of_mem_encodeChar hb (UInt8.lt_iff_toNat_lt.1 hascii), hc] at hallows
  exact absurd hallows (by simp)

/-- What is quoted stays as it is where it is quoted again. -/
theorem requote_quote (s : List Char) :
    userQuoting.requote (userQuoting.quote s) = userQuoting.quote s := by
  rw [quote_eq_escaped]
  induction s with
  | nil => rfl
  | cons c s ih =>
    rw [escaped_cons, escapedChar]
    split
    next hc =>
      rw [List.singleton_append, Quoting.requote.eq_def]
      simp only [if_neg (standAlone_allows c hc).2, ih]
      rw [Quoting.quoteChar, if_neg (by simp [userQuoting]), if_pos hc]
      rfl
    next hc =>
      rw [requote_escapes _ _ fun b hb => normalize_of_mem_encodeChar (by simpa using hc) hb, ih]

end SqlCluster.Url
