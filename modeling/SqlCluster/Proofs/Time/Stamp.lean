import SqlCluster.Proofs.Time.Plain

/-!
Stamps: texts of a date, a time of day with a fraction of any length, and a zone. Without fraction
and zone, and with a blank in the middle, a stamp is in the plain layout; any other is in the
extended one once its `Z` is written as an offset and its fraction is brought to six digits. In
either layout it names the instant of its local time less its offset (`Stamp.readInstant_text`), and
what a fraction has behind the sixth digit is cut off (`digitsValue_sixDigits`).
-/

namespace SqlCluster.Time

open Text Numeral

variable {c : Char} {s digits rest : List Char}

/-! ### Fractions -/

theorem length_sixDigits (digits : List Char) : (sixDigits digits).length = 6 := by
  rw [sixDigits, List.length_append, List.length_take, List.length_replicate]
  omega

theorem isDigit_of_mem_sixDigits (h : ∀ c ∈ digits, c.isDigit) :
    ∀ c ∈ sixDigits digits, c.isDigit := by
  intro c hc
  obtain hc | hc := List.mem_append.1 hc
  · exact h c (List.mem_of_mem_take hc)
  · exact isDigit_of_mem_zeros c hc

/-- The six digits of a fraction are its microseconds, cut off and not rounded. -/
theorem digitsValue_sixDigits (h : ∀ c ∈ digits, c.isDigit) :
    digitsValue (sixDigits digits) = digitsValue digits * 10 ^ 6 / 10 ^ digits.length := by
  rw [sixDigits, digitsValue_append, digitsValue_zeros, List.length_replicate, Nat.add_zero]
  obtain hshort | hlong := Nat.le_total digits.length 6
  · have hpow : 10 ^ 6 = 10 ^ (6 - digits.length) * 10 ^ digits.length := by
      rw [← Nat.pow_add, Nat.sub_add_cancel hshort]
    rw [List.take_of_length_le hshort, hpow, ← Nat.mul_assoc,
      Nat.mul_div_cancel _ (Nat.pow_pos (by decide))]
  · have hpow : 10 ^ digits.length = 10 ^ (digits.length - 6) * 10 ^ 6 := by
      rw [← Nat.pow_add, Nat.sub_add_cancel hlong]
    have hrest : digitsValue (digits.drop 6) < 10 ^ (digits.length - 6) := by
      rw [← List.length_drop]
      exact digitsValue_lt fun c hc => h c (List.mem_of_mem_drop hc)
    have hvalue : digitsValue digits =
        10 ^ (digits.length - 6) * digitsValue (digits.take 6) + digitsValue (digits.drop 6) := by
      rw [← List.length_drop, Nat.mul_comm, ← digitsValue_append, List.take_append_drop]
    rw [hpow, Nat.mul_div_mul_right _ _ (by decide), hvalue,
      Nat.mul_add_div (Nat.pow_pos (by decide)), Nat.div_eq_of_lt hrest,
      Nat.sub_eq_zero_of_le hlong, Nat.pow_zero, Nat.mul_one]
    rfl

/-- A fraction behind its point, if there is one. -/
def fractionText : Option (List Char) → List Char
  | none => []
  | some digits => '.' :: digits

/-! ### Zones -/

/-- What may stand behind the time of a stamp: nothing, a `Z` of either case, or an offset of hours
and minutes ahead of UTC or behind it. -/
inductive Zone where
  | absent
  | zulu (lower : Bool)
  | offset (behind : Bool) (hours minutes : Nat) (valid : hours < 24 ∧ minutes < 60)

namespace Zone

/-- An offset of hours and minutes with its sign. -/
def offsetText (behind : Bool) (hours minutes : Nat) : List Char :=
  (if behind then '-' else '+') :: (decimalPadded 2 hours ++ ':' :: decimalPadded 2 minutes)

/-- A zone as it is written. -/
def text : Zone → List Char
  | absent => []
  | zulu lower => [if lower then 'z' else 'Z']
  | offset behind hours minutes _ => offsetText behind hours minutes

/-- A zone as it is written for the extended layout. -/
def plainText : Zone → List Char
  | absent => []
  | zulu _ => offsetText false 0 0
  | offset behind hours minutes _ => offsetText behind hours minutes

/-- The seconds that a zone is ahead of UTC; without a zone there are none. -/
def seconds : Zone → Int
  | absent | zulu _ => 0
  | offset behind hours minutes _ => Double.signed behind ((hours * 60 + minutes) * 60)

variable {zone : Zone}

theorem mem_offsetText {behind : Bool} {hours minutes : Nat}
    (hc : c ∈ offsetText behind hours minutes) : c.isDigit ∨ c = '-' ∨ c = '+' ∨ c = ':' := by
  simp only [offsetText, List.mem_cons, List.mem_append] at hc
  obtain rfl | hc | rfl | hc := hc
  · split <;> decide
  · exact .inl (isDigit_of_mem_decimalPadded c hc)
  · exact .inr (.inr (.inr rfl))
  · exact .inl (isDigit_of_mem_decimalPadded c hc)

theorem mem_plainText (hc : c ∈ zone.plainText) : c.isDigit ∨ c = '-' ∨ c = '+' ∨ c = ':' := by
  cases zone with
  | absent => cases hc
  | zulu lower => exact mem_offsetText hc
  | offset behind hours minutes valid => exact mem_offsetText hc

theorem isBlank_of_mem_text (hc : c ∈ zone.text) : isBlank c = false := by
  cases zone with
  | absent => cases hc
  | zulu lower =>
    rw [List.mem_singleton.1 hc]
    cases lower <;> rfl
  | offset behind hours minutes valid =>
    obtain hc | rfl | rfl | rfl := mem_offsetText hc
    · exact isBlank_of_isDigit hc
    · rfl
    · rfl
    · rfl

theorem head?_plainText (zone : Zone) : ∀ c ∈ zone.plainText.head?, c = '-' ∨ c = '+' := by
  intro c hc
  cases zone with
  | absent => cases hc
  | zulu lower =>
    cases hc
    exact .inr rfl
  | offset behind hours minutes valid =>
    cases hc
    cases behind <;> simp

theorem withoutZulu_append (zone : Zone) (hupper : 'Z' ∉ s) (hlower : 'z' ∉ s) :
    withoutZulu (s ++ zone.text) = s ++ zone.plainText := by
  have hself (zone : Zone) (h : zone.text = zone.plainText) :
      withoutZulu (s ++ zone.text) = s ++ zone.plainText := by
    rw [h]
    refine withoutZulu_eq_self ?_ ?_ <;> rw [List.mem_append] <;> rintro (hmem | hmem)
    · exact hupper hmem
    · exact absurd (mem_plainText hmem) (by decide)
    · exact hlower hmem
    · exact absurd (mem_plainText hmem) (by decide)
  cases zone with
  | absent => exact hself .absent rfl
  | zulu lower =>
    have hreverse :
        (s ++ text (zulu lower)).reverse = (if lower then 'z' else 'Z') :: s.reverse := by
      simp [text]
    rw [withoutZulu, hreverse]
    dsimp only
    rw [if_pos (by cases lower <;> simp), List.reverse_reverse]
    rfl
  | offset behind hours minutes valid => exact hself _ rfl

theorem readOffset?_offsetText (behind : Bool) {hours minutes : Nat}
    (h : hours < 24 ∧ minutes < 60) : readOffset? (offsetText behind hours minutes) =
      some (Double.signed behind ((hours * 60 + minutes) * 60) * 1000000) := by
  have htime := @readTime?_minutes hours minutes (by omega) (by omega)
  rw [offsetText, Double.signed,
    readOffset?_sign (by cases behind <;> decide) htime (Nat.add_zero _) (by omega)]
  cases behind with
  | false => rfl
  | true => simp only [if_true, Int.neg_mul]

/-- A zone for the extended layout is absent or begins with a sign, and is read as its offset. -/
theorem readOffset?_plainText (zone : Zone) :
    zone.plainText = [] ∧ zone.seconds * 1000000 = 0 ∨
      zone.plainText.head?.any beginsOffset ∧
        readOffset? zone.plainText = some (zone.seconds * 1000000) := by
  cases zone with
  | absent => exact .inl ⟨rfl, rfl⟩
  | zulu lower => exact .inr ⟨rfl, readOffset?_offsetText false (by decide)⟩
  | offset behind hours minutes valid =>
    exact .inr ⟨by cases behind <;> rfl, readOffset?_offsetText behind valid⟩

end Zone

/-! ### Stamps -/

/-- An instant as it is written: a date, a `T` or a blank, a time of day up to the second, perhaps a
fraction of at least one digit, and a zone. -/
structure Stamp where
  date : Date
  separator : Char
  separates : separator = 'T' ∨ isBlank separator
  hour : Nat
  minute : Nat
  second : Nat
  valid : ValidClock hour minute second 0
  fraction : Option (List Char)
  isFraction : ∀ digits ∈ fraction, digits ≠ [] ∧ ∀ c ∈ digits, c.isDigit
  zone : Zone

namespace Stamp

/-- The text of a stamp. -/
def text (t : Stamp) : List Char :=
  t.date.text ++ t.separator ::
    (fieldsText t.hour t.minute t.second ++ (fractionText t.fraction ++ t.zone.text))

/-- The microseconds of a stamp: the first six digits of its fraction, filled up with zeros on the
right. -/
def micros (t : Stamp) : Nat := digitsValue (sixDigits (t.fraction.getD []))

theorem isDigit_of_mem_fraction (t : Stamp) : ∀ c ∈ t.fraction.getD [], c.isDigit := by
  intro c hc
  cases hfraction : t.fraction with
  | none => simp [hfraction] at hc
  | some digits =>
    rw [hfraction] at hc
    exact (t.isFraction digits hfraction).2 c hc

theorem micros_lt (t : Stamp) : t.micros < 1000000 := by
  have hlt := digitsValue_lt (isDigit_of_mem_sixDigits t.isDigit_of_mem_fraction)
  rwa [length_sixDigits] at hlt

theorem micros_eq (t : Stamp) (hdigits : digits ∈ t.fraction) :
    t.micros = digitsValue digits * 10 ^ 6 / 10 ^ digits.length := by
  rw [micros, Option.mem_def.1 hdigits]
  exact digitsValue_sixDigits (t.isFraction digits hdigits).2

/-- The time of day of a stamp. -/
def clock (t : Stamp) : Clock :=
  ⟨t.hour, t.minute, t.second, t.micros, t.valid.1, t.valid.2.1, t.valid.2.2.1, t.micros_lt⟩

theorem separator_ne (t : Stamp) (hc : c ≠ 'T') (hblank : isBlank c = false) :
    t.separator ≠ c := by
  rintro rfl
  obtain h | h := t.separates
  · exact hc h
  · rw [hblank] at h
    cases h

/-- What stands before the zone of a stamp. -/
def front (t : Stamp) : List Char :=
  t.date.text ++ t.separator :: (fieldsText t.hour t.minute t.second ++ fractionText t.fraction)

theorem text_eq (t : Stamp) : t.text = t.front ++ t.zone.text := by
  simp only [text, front, List.append_assoc, List.cons_append]

theorem isPlain_of_mem_front {t : Stamp} (hc : c ∈ t.front) : IsPlain c ∨ c = t.separator := by
  simp only [front, List.mem_append, List.mem_cons] at hc
  obtain hc | hc | hc | hc := hc
  · exact .inl (isPlain_of_mem_dateText hc)
  · exact .inr hc
  · obtain hc | rfl := mem_fieldsText hc
    · exact .inl (.inl hc)
    · exact .inl (.inr (by decide))
  · cases hfraction : t.fraction with
    | none =>
      rw [hfraction] at hc
      cases hc
    | some digits =>
      rw [hfraction] at hc
      obtain rfl | hc := List.mem_cons.1 hc
      · exact .inl (.inr (by decide))
      · exact .inl (.inl ((t.isFraction digits hfraction).2 c hc))

theorem notMem_front (t : Stamp) (hplain : ¬IsPlain c) (hblank : isBlank c = false) :
    c ∉ t.front := by
  intro hc
  obtain hc | hc := isPlain_of_mem_front hc
  · exact hplain hc
  · refine t.separator_ne ?_ hblank hc.symm
    rintro rfl
    exact hplain (.inr (by decide))

/-! ### The plain layout -/

/-- Only with a blank in the middle and nothing behind its seconds is a stamp in the plain
layout. -/
theorem readPlain?_text_cases (t : Stamp) : readPlain? t.text = none ∨
    readPlain? t.text = Instant.ofLocal? t.date t.clock 0 ∧ t.zone.seconds = 0 := by
  obtain hT | hblank := t.separates
  · refine .inl (readPlain?_eq_none fun c hc => ?_)
    rw [t.text_eq, List.mem_append] at hc
    obtain hc | hc := hc
    · obtain hc | rfl := isPlain_of_mem_front hc
      · exact hc.isBlank_eq
      · rw [hT]
        rfl
    · exact Zone.isBlank_of_mem_text hc
  · by_cases hrest : fractionText t.fraction ++ t.zone.text = []
    · obtain ⟨hfraction, hzone⟩ := List.append_eq_nil_iff.1 hrest
      refine .inr ⟨?_, ?_⟩
      · have hmicros : t.micros = 0 := by
          cases hnone : t.fraction with
          | none =>
            rw [micros, hnone]
            rfl
          | some digits => simp [fractionText, hnone] at hfraction
        have hclock : t.clock = ⟨t.hour, t.minute, t.second, 0, t.valid⟩ := by
          simp only [clock, hmicros]
        rw [text, hrest, List.append_nil, hclock]
        exact readPlain?_text t.date hblank t.valid
      · cases hz : t.zone with
        | absent => rfl
        | _ => simp [hz, Zone.text, Zone.offsetText] at hzone
    · exact .inl (readPlain?_text_append t.date hblank t.valid.1 t.valid.2.1 t.valid.2.2.1 hrest)

/-! ### The extended layout -/

theorem withSixDigits_text (t : Stamp) :
    withSixDigits (t.front ++ t.zone.plainText) = t.date.text ++ t.separator ::
      (fieldsText t.hour t.minute t.second ++ fractionText (t.fraction.map sixDigits) ++
        t.zone.plainText) := by
  obtain ⟨hhour, hminute, hsecond, -⟩ := t.valid
  cases hfraction : t.fraction with
  | none =>
    simp only [front, hfraction, Option.map_none, fractionText, List.append_nil, List.append_assoc,
      List.cons_append]
    refine withSixDigits_eq_self fun h => ?_
    simp only [List.mem_append, List.mem_cons] at h
    obtain h | h | h | h := h
    · exact absurd (mem_dateText h) (by decide)
    · exact t.separator_ne (by decide) rfl h.symm
    · exact absurd (mem_fieldsText h) (by decide)
    · exact absurd (Zone.mem_plainText h) (by decide)
  | some digits =>
    obtain ⟨hne, hdigits⟩ := t.isFraction digits hfraction
    have hends : ∀ c ∈ t.zone.plainText.head?, isDecimal c = false := by
      intro c hc
      obtain rfl | rfl := t.zone.head?_plainText c hc <;> decide
    have hseparator : t.separator ≠ ':' := t.separator_ne (by decide) rfl
    simp only [front, hfraction, Option.map_some, fractionText, List.append_assoc,
      List.cons_append]
    exact Time.withSixDigits_text t.date hseparator (by omega) (by omega) (by omega) hne hdigits
      hends

theorem readTime?_fractionText (t : Stamp) :
    readTime? (fieldsText t.hour t.minute t.second ++ fractionText (t.fraction.map sixDigits)) =
      some ⟨t.hour, t.minute, t.second, t.micros, true⟩ := by
  obtain ⟨hhour, hminute, hsecond, -⟩ := t.valid
  rw [micros]
  cases hfraction : t.fraction with
  | none =>
    rw [Option.map_none, fractionText, List.append_nil,
      readTime?_fields (by omega) (by omega) (by omega)]
    rfl
  | some digits =>
    have hdigits := isDigit_of_mem_sixDigits (t.isFraction digits hfraction).2
    exact readTime?_fraction (by omega) (by omega) (by omega) hdigits (length_sixDigits digits)

theorem readExtended?_text (t : Stamp) : readExtended? (withSixDigits (withoutZulu t.text)) =
    some (t.date, t.clock, t.zone.seconds * 1000000) := by
  have hfront : 'Z' ∉ t.front ∧ 'z' ∉ t.front :=
    ⟨t.notMem_front (by unfold IsPlain; decide) rfl, t.notMem_front (by unfold IsPlain; decide) rfl⟩
  have htime : ∀ c ∈ fieldsText t.hour t.minute t.second ++
      fractionText (t.fraction.map sixDigits), beginsOffset c = false := by
    intro c hc
    obtain hc | hc := List.mem_append.1 hc
    · obtain hc | rfl := mem_fieldsText hc
      · exact beginsOffset_of_isDigit hc
      · rfl
    · cases hfraction : t.fraction with
      | none => simp [hfraction, fractionText] at hc
      | some digits =>
        rw [hfraction] at hc
        obtain rfl | hc := List.mem_cons.1 hc
        · rfl
        · exact beginsOffset_of_isDigit
            (isDigit_of_mem_sixDigits (t.isFraction digits hfraction).2 c hc)
  have hclock := @readClock?_of _ _ t.clock _ htime t.readTime?_fractionText
    t.zone.readOffset?_plainText
  rw [t.text_eq, t.zone.withoutZulu_append hfront.1 hfront.2, withSixDigits_text]
  exact Time.readExtended?_text (.inr ⟨_, _, rfl, hclock⟩)

/-! ### Instants -/

/-- A stamp is read as the instant that lies its offset before its local time. -/
theorem readInstant_text {t : Stamp} {i : Instant}
    (h : Instant.ofLocal? t.date t.clock (t.zone.seconds * 1000000) = some i) :
    readInstant t.text = .ok i := by
  rw [readInstant]
  obtain hplain | ⟨hplain, hzone⟩ := t.readPlain?_text_cases
  · rw [hplain, t.readExtended?_text]
    dsimp only
    rw [h]
  · rw [hzone, Int.zero_mul] at h
    rw [hplain, h]

/-- The seconds from the beginning of the calendar to a stamp, in UTC. -/
def utcSeconds (t : Stamp) : Int := secondsAt t.date t.clock - t.zone.seconds

/-- Whether the instant of a stamp has a date in UTC, in the years 1 to 9999. -/
def InCalendar (t : Stamp) : Prop := ∃ (d : Date) (c : Clock), secondsAt d c = t.utcSeconds

theorem InCalendar.exists_readInstant {t : Stamp} (h : t.InCalendar) :
    ∃ i, readInstant t.text = .ok i ∧ secondsAt i.date i.clock = t.utcSeconds ∧
      i.clock.micro = t.micros := by
  obtain ⟨d, c, hutc⟩ := h
  obtain ⟨hfirst, hlast⟩ := secondsAt_mem_calendar d c
  rw [hutc] at hfirst hlast
  obtain ⟨i, hi, hseconds⟩ := Instant.exists_ofLocal? hfirst hlast
  exact ⟨i, readInstant_text hi, hseconds⟩

end Stamp

end SqlCluster.Time
