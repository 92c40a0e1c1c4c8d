import SqlCluster.Proofs.Time.Extended

/-!
Dates and local times read back from their texts. These are not in the plain layout, and nothing in
them is rewritten; so a date is read as its midnight in UTC, and a local time as the instant that it
names (`readInstant_date`, `LocalTime.InCalendar.exists_readInstant`).
-/

namespace SqlCluster.Time

open Text Numeral

variable {hour minute second : Nat} {c : Char} {d : Date} {s digits rest : List Char}

/-! ### What is rewritten before reading -/

theorem withoutZulu_eq_self (hupper : 'Z' ∉ s) (hlower : 'z' ∉ s) : withoutZulu s = s := by
  unfold withoutZulu
  split
  next c r hr =>
    have hc : c ∈ s := List.mem_reverse.1 (hr ▸ List.mem_cons_self)
    refine if_neg ?_
    rintro (rfl | rfl)
    · exact hupper hc
    · exact hlower hc
  next => rfl

theorem isDecimal_of_isDigit (hc : c.isDigit) : isDecimal c := by
  rw [isDecimal, decimalValue?_of_isDigit hc]
  rfl

theorem after?_eq_some {r : List Char} : after? c s = some r ↔ s = c :: r := by
  cases s with
  | nil => simp [after?]
  | cons a s =>
    by_cases h : a = c
    · subst h
      simp [after?, eq_comm]
    · simp [after?, h]

theorem afterTwoDigits?_eq_some {r : List Char} (h : afterTwoDigits? s = some r) :
    ∃ a b, s = a :: b :: r := by
  unfold afterTwoDigits? at h
  split at h
  · split at h
    · cases h
      exact ⟨_, _, rfl⟩
    · cases h
  · cases h

/-- A fraction is found only behind two characters and a colon, and behind a point. -/
theorem fraction?_eq_some {r : List Char} (h : fraction? s = some r) :
    s[2]? = some ':' ∧ '.' ∈ s := by
  simp only [fraction?, Option.bind_eq_bind, Option.bind_eq_some_iff, after?_eq_some] at h
  obtain ⟨_, h₁, _, rfl, _, h₂, _, rfl, _, h₃, _, rfl, -⟩ := h
  obtain ⟨_, _, rfl⟩ := afterTwoDigits?_eq_some h₁
  obtain ⟨_, _, rfl⟩ := afterTwoDigits?_eq_some h₂
  obtain ⟨_, _, rfl⟩ := afterTwoDigits?_eq_some h₃
  exact ⟨rfl, by simp⟩

theorem withSixDigits_cons (h : fraction? (c :: s) = none) :
    withSixDigits (c :: s) = c :: withSixDigits s := by
  rw [withSixDigits, h]

theorem withSixDigits_eq_self (h : '.' ∉ s) : withSixDigits s = s := by
  induction s with
  | nil => rfl
  | cons c s ih =>
    have hnone : fraction? (c :: s) = none := by
      refine Option.eq_none_iff_forall_ne_some.2 fun r hr => h (fraction?_eq_some hr).2
    rw [withSixDigits_cons hnone, ih fun hs => h (List.mem_cons_of_mem c hs)]

/-- In front of the hours of a time, no fraction is found. -/
theorem withSixDigits_append {t : List Char} (hs : ':' ∉ s) (ht : ':' ∉ t.take 2) :
    withSixDigits (s ++ t) = s ++ withSixDigits t := by
  induction s with
  | nil => rfl
  | cons c s ih =>
    have hnone : fraction? (c :: (s ++ t)) = none := by
      refine Option.eq_none_iff_forall_ne_some.2 fun r hr => ?_
      have hcolon : (s ++ t)[1]? = some ':' := (fraction?_eq_some hr).1
      rw [List.getElem?_append] at hcolon
      split at hcolon
      · exact hs (List.mem_cons_of_mem c (List.mem_of_getElem? hcolon))
      · refine ht (List.mem_of_getElem? (i := 1 - s.length) ?_)
        rw [List.getElem?_take_of_lt (by omega), hcolon]
    rw [List.cons_append, withSixDigits_cons hnone, ih fun h => hs (List.mem_cons_of_mem c h)]
    rfl

theorem fraction?_fields (hh : hour < 100) (hm : minute < 100) (hs : second < 100)
    (hdigit : s.head?.any isDecimal) :
    fraction? (fieldsText hour minute second ++ '.' :: s) = some s := by
  have htwo : ∀ {n : Nat} (rest : List Char), n < 100 →
      afterTwoDigits? (decimalPadded 2 n ++ rest) = some rest := by
    intro n rest hn
    obtain ⟨a, b, hab, ha, hb⟩ := exists_decimalPadded_two hn
    rw [hab]
    exact if_pos ⟨isDecimal_of_isDigit ha, isDecimal_of_isDigit hb⟩
  simp [fraction?, fieldsText, htwo, hh, hm, hs, after?, hdigit]

theorem withSixDigits_fraction (hh : hour < 100) (hm : minute < 100) (hs : second < 100)
    (hne : digits ≠ []) (hdigits : ∀ c ∈ digits, c.isDigit)
    (hrest : ∀ c ∈ rest.head?, isDecimal c = false) :
    withSixDigits (fieldsText hour minute second ++ '.' :: (digits ++ rest)) =
      fieldsText hour minute second ++ '.' :: (sixDigits digits ++ rest) := by
  have hdecimal : ∀ c ∈ digits, isDecimal c := fun c hc => isDecimal_of_isDigit (hdigits c hc)
  have hfirst : (digits ++ rest).head?.any isDecimal := by
    obtain ⟨c, s, rfl⟩ := List.exists_cons_of_ne_nil hne
    exact hdecimal c (by simp)
  have hfraction := fraction?_fields hh hm hs hfirst
  have hlength : (fieldsText hour minute second).length = 8 := by
    simp [fieldsText, length_decimalPadded, hh, hm, hs]
  have htake : (fieldsText hour minute second ++ '.' :: (digits ++ rest)).take 9 =
      fieldsText hour minute second ++ ['.'] := by
    rw [List.take_append, List.take_of_length_le (by omega), hlength]
    rfl
  -- the text is not empty, and a fraction is found at its first character already
  generalize htext : fieldsText hour minute second ++ '.' :: (digits ++ rest) = text at *
  cases text with
  | nil => simp at htext
  | cons c text =>
    rw [withSixDigits, hfraction]
    dsimp only
    rw [htake, takeWhile_append_eq hdecimal hrest, dropWhile_append_eq hdecimal hrest]
    simp

/-- The fraction of a time behind a date is found and brought to six digits. -/
theorem withSixDigits_text (d : Date) (hc : c ≠ ':') (hh : hour < 100) (hm : minute < 100)
    (hs : second < 100) (hne : digits ≠ []) (hdigits : ∀ c ∈ digits, c.isDigit)
    (hrest : ∀ c ∈ rest.head?, isDecimal c = false) :
    withSixDigits (d.text ++ c :: (fieldsText hour minute second ++ '.' :: (digits ++ rest))) =
      d.text ++ c :: (fieldsText hour minute second ++ '.' :: (sixDigits digits ++ rest)) := by
  have hdate : ':' ∉ d.text ++ [c] := by
    rw [List.mem_append, List.mem_singleton]
    rintro (hmem | rfl)
    · exact absurd (mem_dateText hmem) (by decide)
    · exact hc rfl
  have htime : ':' ∉ (fieldsText hour minute second ++ '.' :: (digits ++ rest)).take 2 := by
    obtain ⟨a, b, hab, ha, hb⟩ := exists_decimalPadded_two hh
    simp only [fieldsText, hab]
    have hcolon : Char.isDigit ':' = false := rfl
    simp [(ne_of_isDigit ha hcolon).symm, (ne_of_isDigit hb hcolon).symm]
  rw [List.append_cons, withSixDigits_append hdate htime,
    withSixDigits_fraction hh hm hs hne hdigits hrest, ← List.append_cons]

theorem sixDigits_eq_self (h : digits.length = 6) : sixDigits digits = digits := by
  simp [sixDigits, ← h]

/-! ### The plain layout -/

theorem cutDay?_eq_none (h : ∀ c ∈ s, isBlank c = false) : cutDay? s = none := by
  have hall : ∀ c ∈ s, (!isBlank c) = true := fun c hc => by rw [h c hc]; rfl
  have hdrop : s.dropWhile (fun c => !isBlank c) = [] := by
    simpa using dropWhile_append_eq (b := []) hall nofun
  unfold cutDay?
  split
  next => exact absurd (h ' ' (by simp)) (by decide)
  next => simp [hdrop]

theorem readPlain?_eq_none (h : ∀ c ∈ s, isBlank c = false) : readPlain? s = none := by
  simp only [readPlain?, Option.bind_eq_bind, Option.bind_eq_none_iff, Prod.forall]
  intro year s₁ h₁ month s₂ h₂ day s₃ h₃
  obtain ⟨rfl, -⟩ := eq_append_of_cutFirst? h₁
  obtain ⟨rfl, -⟩ := eq_append_of_cutFirst? h₂
  rw [cutDay?_eq_none fun c hc => h c (by simp [hc])] at h₃
  cases h₃

/-! ### Instants -/

/-- What the texts of dates and local times are made of. -/
def IsPlain (c : Char) : Prop := c.isDigit ∨ c ∈ ['-', ':', '.', '+', 'T']

theorem IsPlain.isBlank_eq (hc : IsPlain c) : isBlank c = false := by
  obtain hc | hc := hc
  · have := toNat_of_isDigit hc
    simp only [isBlank, Bool.or_eq_false_iff, Bool.and_eq_false_iff, decide_eq_false_iff_not,
      beq_eq_false_iff_ne]
    omega
  · simp only [List.mem_cons, List.not_mem_nil, or_false] at hc
    rcases hc with rfl | rfl | rfl | rfl | rfl <;> decide

theorem isPlain_of_mem_dateText (hc : c ∈ d.text) : IsPlain c := by
  obtain hc | rfl := mem_dateText hc
  · exact .inl hc
  · exact .inr (by decide)

theorem LocalTime.text_eq (t : LocalTime) :
    t.text = t.date.text ++ 'T' :: (t.clock.text ++ offsetSuffix t.offset) := by
  rw [text, List.append_assoc, List.cons_append]
  rfl

theorem isPlain_of_mem_localTimeText {t : LocalTime} (hc : c ∈ t.text) : IsPlain c := by
  simp only [t.text_eq, List.mem_append, List.mem_cons] at hc
  obtain hc | rfl | hc | hc := hc
  · exact isPlain_of_mem_dateText hc
  · exact .inr (by decide)
  · obtain hc | rfl | rfl := mem_clockText hc
    · exact .inl hc
    · exact .inr (by decide)
    · exact .inr (by decide)
  · obtain hc | rfl | rfl | rfl := mem_offsetSuffix hc
    · exact .inl hc
    · exact .inr (by decide)
    · exact .inr (by decide)
    · exact .inr (by decide)

theorem readInstant_of_plain {clock : Clock} {offset : Int} {i : Instant}
    (hplain : ∀ c ∈ s, IsPlain c)
    (hread : readExtended? (withSixDigits s) = some (d, clock, offset))
    (hi : Instant.ofLocal? d clock offset = some i) : readInstant s = .ok i := by
  have hblank : readPlain? s = none := readPlain?_eq_none fun c hc => (hplain c hc).isBlank_eq
  have hzulu : withoutZulu s = s :=
    withoutZulu_eq_self (fun h => absurd (hplain _ h) (by unfold IsPlain; decide))
      (fun h => absurd (hplain _ h) (by unfold IsPlain; decide))
  rw [readInstant, hblank, hzulu, hread]
  dsimp only
  rw [hi]

theorem withSixDigits_date (d : Date) : withSixDigits d.text = d.text := by
  refine withSixDigits_eq_self fun h => ?_
  exact absurd (mem_dateText h) (by decide)

/-- A date is read as the instant of its midnight in UTC. -/
theorem readInstant_date (d : Date) :
    ∃ i, readInstant d.text = .ok i ∧ i.date = d ∧ i.clock = .midnight := by
  obtain ⟨i, hi, hdate, hclock⟩ := Instant.exists_ofLocal?_zero d .midnight
  refine ⟨i, readInstant_of_plain (fun c hc => isPlain_of_mem_dateText hc) ?_ hi, hdate, hclock⟩
  rw [withSixDigits_date]
  have hread := readExtended?_text (d := d) (.inl ⟨rfl, rfl, rfl⟩)
  rwa [List.append_nil] at hread

theorem withSixDigits_localTime (t : LocalTime) : withSixDigits t.text = t.text := by
  obtain ⟨hhour, hminute, hsecond, hmicro⟩ := t.clock.valid
  by_cases hzero : t.clock.micro = 0
  · refine withSixDigits_eq_self fun h => ?_
    simp only [t.text_eq, t.clock.text_eq, if_pos hzero, List.append_nil, List.mem_append,
      List.mem_cons] at h
    obtain h | h | h | h := h
    · exact absurd (mem_dateText h) (by decide)
    · exact absurd h (by decide)
    · exact absurd (mem_fieldsText h) (by decide)
    · exact absurd (mem_offsetSuffix h) (by decide)
  · have hlength := length_decimalPadded (w := 6) (by decide) hmicro
    have hrest : ∀ c ∈ (offsetSuffix t.offset).head?, isDecimal c = false := by
      intro c hc
      rcases head?_offsetSuffix t.offset c hc with rfl | rfl <;> decide
    have htext := withSixDigits_text t.date (c := 'T') (by decide) (hhour.trans (by decide))
      (hminute.trans (by decide)) (hsecond.trans (by decide))
      (decimalPadded_ne_nil (w := 6) (n := t.clock.micro)) isDigit_of_mem_decimalPadded hrest
    rw [sixDigits_eq_self hlength] at htext
    rw [t.text_eq, t.clock.text_eq, if_neg hzero, List.append_assoc, List.cons_append]
    exact htext

theorem readClock?_localTime {t : LocalTime} (hoffset : ∀ o ∈ t.offset, o.natAbs < 86400) :
    readClock? (t.clock.text ++ offsetSuffix t.offset) =
      some (t.clock, t.offset.getD 0 * 1000000) := by
  refine readClock?_of (fun c hc => ?_) (readTime?_clockText t.clock) ?_
  · obtain hc | rfl | rfl := mem_clockText hc
    · exact beginsOffset_of_isDigit hc
    · decide
    · decide
  · cases ht : t.offset with
    | none => exact .inl ⟨rfl, rfl⟩
    | some o =>
      refine .inr ⟨?_, readOffset?_offsetText (hoffset o ht)⟩
      change beginsOffset (if o < 0 then '-' else '+') = true
      split <;> decide

/-- A local time is read as the instant that it names, if the calendar holds that. -/
theorem readInstant_localTime {t : LocalTime} {i : Instant}
    (hoffset : ∀ o ∈ t.offset, o.natAbs < 86400)
    (hi : Instant.ofLocal? t.date t.clock (t.offset.getD 0 * 1000000) = some i) :
    readInstant t.text = .ok i := by
  refine readInstant_of_plain (fun c hc => isPlain_of_mem_localTimeText hc) ?_ hi
  rw [withSixDigits_localTime, t.text_eq]
  exact readExtended?_text (.inr ⟨_, _, rfl, readClock?_localTime hoffset⟩)

/-! ### Local times in the calendar -/

/-- The seconds from the beginning of the calendar to a local time, in UTC. -/
def LocalTime.utcSeconds (t : LocalTime) : Int := secondsAt t.date t.clock - t.offset.getD 0

/-- Whether a local time is less than a day ahead of UTC or behind it and names an instant of the
calendar. -/
structure LocalTime.InCalendar (t : LocalTime) : Prop where
  offset : ∀ o ∈ t.offset, o.natAbs < 86400
  first : 0 ≤ t.utcSeconds
  last : t.utcSeconds < calendarDays * 86400

/-- The instant that is read has the seconds of the local time in UTC and its microseconds. -/
theorem LocalTime.InCalendar.exists_readInstant {t : LocalTime} (h : t.InCalendar) :
    ∃ i, readInstant t.text = .ok i ∧ secondsAt i.date i.clock = t.utcSeconds ∧
      i.clock.micro = t.clock.micro := by
  obtain ⟨i, hi, hseconds⟩ := Instant.exists_ofLocal? h.first h.last
  exact ⟨i, readInstant_localTime h.offset hi, hseconds⟩

end SqlCluster.Time
