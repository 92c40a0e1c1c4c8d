import SqlCluster.Proofs.Time.Reading

/-!
The plain layout read back. A date, a blank and a time of day up to the second are read as that
instant in UTC (`readPlain?_text`), so a whole second is read back from its text
(`readInstant_plainText`). With anything more behind the seconds the text is not in the plain layout
(`readPlain?_text_append`).
-/

namespace SqlCluster.Time

open Text Numeral

variable {n hour minute second : Nat} {c : Char} {d : Date} {s rest : List Char}

/-! ### Numbers -/

theorem decimalNumber?_of_digits (h : ∀ c ∈ s, c.isDigit) :
    decimalNumber? s = some (digitsValue s) := by
  have hvalues : s.mapM decimalValue? = some (s.map fun c => c.toNat - 48) := by
    induction s with
    | nil => rfl
    | cons c s ih =>
      rw [List.forall_mem_cons] at h
      rw [List.mapM_cons, decimalValue?_of_isDigit h.1, ih h.2]
      rfl
  rw [decimalNumber?, hvalues]
  rfl

theorem decimalNumber?_year (d : Date) : decimalNumber? (decimalPadded 4 d.year) = some d.year := by
  rw [decimalNumber?_of_digits isDigit_of_mem_decimalPadded, digitsValue_decimalPadded]

theorem monthNumber?_decimalPadded (hfirst : 1 ≤ n) (hlast : n ≤ 12) :
    monthNumber? (decimalPadded 2 n) = some n := by
  have hall : ∀ n < 13, 1 ≤ n → monthNumber? (decimalPadded 2 n) = some n := by decide
  exact hall n (by omega) hfirst

theorem dayNumber?_decimalPadded (hfirst : 1 ≤ n) (hlast : n ≤ 31) :
    dayNumber? (decimalPadded 2 n) = some n := by
  have hall : ∀ n < 32, 1 ≤ n → dayNumber? (decimalPadded 2 n) = some n := by decide
  exact hall n (by omega) hfirst

theorem hourNumber?_decimalPadded (h : n < 24) : hourNumber? (decimalPadded 2 n) = some n := by
  have hall : ∀ n < 24, hourNumber? (decimalPadded 2 n) = some n := by decide
  exact hall n h

theorem shortNumber?_decimalPadded (h : n < 60) :
    shortNumber? '5' (decimalPadded 2 n) = some n := by
  have hall : ∀ n < 60, shortNumber? '5' (decimalPadded 2 n) = some n := by decide
  exact hall n h

/-- More than two characters are no number of one or two digits. -/
theorem shortNumber?_append_eq_none (high : Char) (hn : n < 100) (hrest : rest ≠ []) :
    shortNumber? high (decimalPadded 2 n ++ rest) = none := by
  obtain ⟨a, b, hab, -, -⟩ := exists_decimalPadded_two hn
  obtain ⟨r, rest, rfl⟩ := List.exists_cons_of_ne_nil hrest
  rw [hab]
  rfl

/-! ### Cuts -/

theorem notMem_decimalPadded {w : Nat} (hc : c.isDigit = false) : c ∉ decimalPadded w n := by
  intro hmem
  exact ne_of_isDigit (isDigit_of_mem_decimalPadded c hmem) hc rfl

theorem isBlank_of_isDigit (hc : c.isDigit) : isBlank c = false := IsPlain.isBlank_eq (.inl hc)

theorem cutDay?_decimalPadded (hfirst : 1 ≤ n) (hlast : n ≤ 31) (hc : isBlank c) :
    cutDay? (decimalPadded 2 n ++ c :: rest) = some (n, c :: rest) := by
  have hdigits : ∀ a ∈ decimalPadded 2 n, (!isBlank a) = true := fun a ha => by
    rw [isBlank_of_isDigit (isDigit_of_mem_decimalPadded a ha)]
    rfl
  have hends : ∀ a ∈ (c :: rest).head?, (!isBlank a) = false := by
    rintro a ⟨⟩
    rw [hc]
    rfl
  have hday := dayNumber?_decimalPadded hfirst hlast
  unfold cutDay?
  split
  next htext =>
    -- a space does not begin a day of two digits
    obtain ⟨a, b, hab, ha, -⟩ := exists_decimalPadded_two (n := n) (by omega)
    rw [hab] at htext
    exact absurd (List.cons.inj htext).1 (ne_of_isDigit ha rfl)
  next =>
    rw [takeWhile_append_eq hdigits hends, dropWhile_append_eq hdigits hends]
    simp [hc, hday]

theorem dropWhile_isBlank_fieldsText (hc : isBlank c) (hh : hour < 100) :
    (c :: (fieldsText hour minute second ++ rest)).dropWhile isBlank =
      fieldsText hour minute second ++ rest := by
  obtain ⟨a, b, hab, ha, -⟩ := exists_decimalPadded_two hh
  simp [fieldsText, hab, hc, isBlank_of_isDigit ha]

/-! ### Texts -/

/-- All numbers but the seconds are read, whatever stands behind those. -/
theorem readPlain?_eq (d : Date) (hc : isBlank c) (hh : hour < 24) (hm : minute < 60) :
    readPlain? (d.text ++ c :: (fieldsText hour minute second ++ rest)) =
      (shortNumber? '5' (decimalPadded 2 second ++ rest)).bind fun s =>
        (Clock.of? hour minute s 0).bind fun clock => Instant.ofLocal? d clock 0 := by
  obtain ⟨-, -, hmonth, hmonth', hday, hday'⟩ := d.valid
  have hdays := daysInMonth_le d.year d.month
  have hdash : Char.isDigit '-' = false := rfl
  have hcolon : Char.isDigit ':' = false := rfl
  have htext : d.text ++ c :: (fieldsText hour minute second ++ rest) =
      decimalPadded 4 d.year ++ '-' :: (decimalPadded 2 d.month ++ '-' ::
        (decimalPadded 2 d.day ++ c :: (fieldsText hour minute second ++ rest))) := by
    simp only [d.text_eq, List.append_assoc, List.cons_append]
  have hfields : fieldsText hour minute second ++ rest = decimalPadded 2 hour ++ ':' ::
      (decimalPadded 2 minute ++ ':' :: (decimalPadded 2 second ++ rest)) := by
    simp only [fieldsText, List.append_assoc, List.cons_append]
  rw [readPlain?, htext, cutFirst?_append (notMem_decimalPadded hdash)]
  simp only [Option.bind_eq_bind, Option.bind_some, cutFirst?_append (notMem_decimalPadded hdash),
    cutDay?_decimalPadded hday (hday'.trans hdays) hc,
    dropWhile_isBlank_fieldsText hc (hh.trans (by decide))]
  rw [hfields, cutFirst?_append (notMem_decimalPadded hcolon)]
  simp only [Option.bind_some, cutFirst?_append (notMem_decimalPadded hcolon)]
  rw [length_decimalPadded (by decide) d.lt_of_valid.1, if_neg (by decide)]
  simp only [decimalNumber?_year, monthNumber?_decimalPadded hmonth hmonth', Option.bind_some,
    d.of?_eq, hourNumber?_decimalPadded hh, shortNumber?_decimalPadded hm]

theorem readPlain?_text (d : Date) (hc : isBlank c) (h : ValidClock hour minute second 0) :
    readPlain? (d.text ++ c :: fieldsText hour minute second) =
      Instant.ofLocal? d ⟨hour, minute, second, 0, h⟩ 0 := by
  have hread := @readPlain?_eq hour minute second c [] d hc h.1 h.2.1
  simp only [List.append_nil, shortNumber?_decimalPadded h.2.2.1, Option.bind_some] at hread
  rw [hread, Clock.of?, dif_pos h, Option.bind_some]

/-- A text with more than the seconds is not in the plain layout. -/
theorem readPlain?_text_append (d : Date) (hc : isBlank c) (hh : hour < 24) (hm : minute < 60)
    (hs : second < 60) (hrest : rest ≠ []) :
    readPlain? (d.text ++ c :: (fieldsText hour minute second ++ rest)) = none := by
  rw [readPlain?_eq d hc hh hm, shortNumber?_append_eq_none '5' (hs.trans (by decide)) hrest]
  rfl

/-- An instant as `YYYY-MM-DD HH:MM:SS`, without its microseconds. -/
def Instant.plainText (i : Instant) : List Char :=
  i.date.text ++ ' ' :: fieldsText i.clock.hour i.clock.minute i.clock.second

/-- A whole second is read back from its text in the plain layout. -/
theorem readInstant_plainText {i : Instant} (h : i.clock.micro = 0) :
    readInstant i.plainText = .ok i := by
  have hvalid := i.clock.valid
  rw [h] at hvalid
  have hclock : i.clock = ⟨i.clock.hour, i.clock.minute, i.clock.second, 0, hvalid⟩ := by
    simp only [← h]
  have hi : Instant.ofLocal? i.date i.clock 0 = some i := by
    rw [Instant.ofLocal?, Instant.of?_eq_some, i.micros_eq]
    push_cast
    omega
  rw [readInstant, Instant.plainText, readPlain?_text i.date rfl hvalid, ← hclock, hi]

end SqlCluster.Time
