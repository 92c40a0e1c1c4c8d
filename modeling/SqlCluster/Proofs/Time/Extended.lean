import SqlCluster.Time.Reading
import SqlCluster.Proofs.Number.Numeral
import SqlCluster.Proofs.Time.Calendar

/-!
The extended layout read back. Its readers take numbers of fixed widths one after the other, and the
texts of dates, times and offsets are made of just those; so a date is read from its text, and what
follows it as a time with an offset (`readExtended?_text`).
-/

namespace SqlCluster.Time

open Text Numeral

variable {w n hour minute second : Nat} {c : Char} {d : Date}
  {s digits rest time suffix : List Char}

/-! ### Numbers of fixed width -/

theorem isDigit_of_mem_decimalPadded : ∀ c ∈ decimalPadded w n, c.isDigit := by
  intro c hc
  obtain hc | hc := List.mem_append.1 hc
  · exact isDigit_of_mem_zeros c hc
  · exact isDigit_of_mem_toDigits c hc

theorem digitsValue_decimalPadded : digitsValue (decimalPadded w n) = n := by
  rw [decimalPadded, digitsValue_append, digitsValue_zeros, digitsValue_toDigits, Nat.zero_mul,
    Nat.zero_add]

theorem length_decimalPadded (hw : 0 < w) (hn : n < 10 ^ w) : (decimalPadded w n).length = w := by
  have hle := (Nat.length_toDigits_le_iff (b := 10) (by decide) hw).2 hn
  rw [decimalPadded, List.length_append, List.length_replicate]
  omega

theorem takeNumber?_append (hdigits : ∀ c ∈ digits, c.isDigit) (rest : List Char) :
    takeNumber? digits.length (digits ++ rest) = some (digitsValue digits, rest) := by
  rw [takeNumber?, List.take_left, List.drop_left]
  exact if_pos ⟨rfl, List.all_eq_true.2 hdigits⟩

theorem takeNumber?_decimalPadded (hw : 0 < w) (hn : n < 10 ^ w) (rest : List Char) :
    takeNumber? w (decimalPadded w n ++ rest) = some (n, rest) := by
  have htake := takeNumber?_append (isDigit_of_mem_decimalPadded (w := w) (n := n)) rest
  rwa [length_decimalPadded hw hn, digitsValue_decimalPadded] at htake

theorem exists_decimalPadded_two (hn : n < 100) :
    ∃ a b, decimalPadded 2 n = [a, b] ∧ a.isDigit ∧ b.isDigit := by
  have hlength := length_decimalPadded (w := 2) (by decide) hn
  have hdigits := isDigit_of_mem_decimalPadded (w := 2) (n := n)
  generalize decimalPadded 2 n = s at hlength hdigits
  match s, hlength with
  | [a, b], _ => exact ⟨a, b, rfl, hdigits a (by simp), hdigits b (by simp)⟩

theorem ne_of_isDigit {x : Char} (hc : c.isDigit) (hx : x.isDigit = false) : c ≠ x := by
  rintro rfl
  exact absurd hc (by simp [hx])

/-! ### Fields of a time -/

theorem readFraction?_eq (hdigits : ∀ c ∈ digits, c.isDigit) (hlength : digits.length = 6) :
    readFraction? digits = some (digitsValue digits, true) := by
  have htake := takeNumber?_append hdigits []
  rw [List.append_nil, hlength] at htake
  simp [readFraction?, hlength, htake, endsHere]

variable {left : Nat} {colons : Option Bool} {found : List Nat}

theorem readFields?_end (hn : n < 100) :
    readFields? (left + 1) colons found (decimalPadded 2 n) = some (found ++ [n], 0, true) := by
  have htake := takeNumber?_decimalPadded (w := 2) (by decide) hn []
  rw [List.append_nil] at htake
  simp [readFields?, htake]

theorem readFields?_colon (colons : Option Bool) (hcolons : colons.getD true = true) (hn : n < 100)
    (hrest : rest ≠ []) :
    readFields? (left + 1) colons found (decimalPadded 2 n ++ ':' :: rest) =
      readFields? left (some true) (found ++ [n]) rest := by
  have htake := takeNumber?_decimalPadded (w := 2) (by decide) hn (':' :: rest)
  simp [readFields?, htake, hrest, hcolons]

theorem readFields?_point (hn : n < 100) (hdigits : ∀ c ∈ digits, c.isDigit)
    (hlength : digits.length = 6) :
    readFields? (left + 1) (some true) found (decimalPadded 2 n ++ '.' :: digits) =
      some (found ++ [n], digitsValue digits, true) := by
  have htake := takeNumber?_decimalPadded (w := 2) (by decide) hn ('.' :: digits)
  have hne : digits ≠ [] := by
    rintro rfl
    cases hlength
  simp [readFields?, htake, hne, readFraction?_eq hdigits hlength]

theorem decimalPadded_ne_nil : decimalPadded w n ≠ [] := by
  simp [decimalPadded, Nat.toDigits_ne_nil]

theorem decimalPadded_append_ne_nil : decimalPadded w n ++ rest ≠ [] := by
  simp [decimalPadded_ne_nil]

theorem readTime?_minutes (hh : hour < 100) (hm : minute < 100) :
    readTime? (decimalPadded 2 hour ++ ':' :: decimalPadded 2 minute) =
      some ⟨hour, minute, 0, 0, true⟩ := by
  rw [readTime?, readFields?_colon none rfl hh decimalPadded_ne_nil, readFields?_end hm]
  rfl

/-- Hours, minutes and seconds as `HH:MM:SS`. -/
def fieldsText (hour minute second : Nat) : List Char :=
  decimalPadded 2 hour ++ ':' :: (decimalPadded 2 minute ++ ':' :: decimalPadded 2 second)

theorem readTime?_fields (hh : hour < 100) (hm : minute < 100) (hs : second < 100) :
    readTime? (fieldsText hour minute second) = some ⟨hour, minute, second, 0, true⟩ := by
  rw [readTime?, fieldsText, readFields?_colon none rfl hh decimalPadded_append_ne_nil,
    readFields?_colon (some true) rfl hm decimalPadded_ne_nil, readFields?_end hs]
  rfl

theorem readTime?_fraction (hh : hour < 100) (hm : minute < 100) (hs : second < 100)
    (hdigits : ∀ c ∈ digits, c.isDigit) (hlength : digits.length = 6) :
    readTime? (fieldsText hour minute second ++ '.' :: digits) =
      some ⟨hour, minute, second, digitsValue digits, true⟩ := by
  have htext : fieldsText hour minute second ++ '.' :: digits =
      decimalPadded 2 hour ++ ':' :: (decimalPadded 2 minute ++ ':' ::
        (decimalPadded 2 second ++ '.' :: digits)) := by
    simp only [fieldsText, List.append_assoc, List.cons_append]
  rw [readTime?, htext, readFields?_colon none rfl hh decimalPadded_append_ne_nil,
    readFields?_colon (some true) rfl hm decimalPadded_append_ne_nil,
    readFields?_point hs hdigits hlength]
  rfl

theorem mem_fieldsText (hc : c ∈ fieldsText hour minute second) : c.isDigit ∨ c = ':' := by
  simp only [fieldsText, List.mem_append, List.mem_cons] at hc
  obtain hc | rfl | hc | rfl | hc := hc
  · exact .inl (isDigit_of_mem_decimalPadded c hc)
  · exact .inr rfl
  · exact .inl (isDigit_of_mem_decimalPadded c hc)
  · exact .inr rfl
  · exact .inl (isDigit_of_mem_decimalPadded c hc)

/-! ### Offsets -/

/-- The seconds of an offset are less than a day, whether or not they are written. -/
theorem readOffset?_sign {sign : Char} (hsign : sign ≠ 'Z')
    (htime : readTime? rest = some ⟨hour, minute, second, 0, true⟩)
    (hn : (hour * 60 + minute) * 60 + second = n) (hday : n < 86400) :
    readOffset? (sign :: rest) =
      some (if sign = '-' then -((n : Int) * 1000000) else n * 1000000) := by
  have hbelow : ¬((!true) = true ∨ n ≠ 0 ∧ dayMicros ≤ n * 1000000 + 0) := by
    rw [dayMicros]
    simp only [Bool.not_true, Bool.false_eq_true, false_or]
    omega
  simp only [readOffset?, List.head?_cons, List.tail_cons, Option.map_some, Option.bind_eq_bind,
    Option.bind_some]
  rw [if_neg hsign, htime]
  dsimp only [Option.bind_some]
  rw [hn, if_neg hbelow]
  split
  next hzero => simp [hzero]
  next => split <;> simp

theorem readOffset?_offsetText {offset : Int} (hday : offset.natAbs < 86400) :
    readOffset? (offsetText offset) = some (offset * 1000000) := by
  obtain ⟨n, hn⟩ : ∃ n, offset.natAbs = n := ⟨_, rfl⟩
  rw [hn] at hday
  have hsum : (n / 3600 * 60 + n / 60 % 60) * 60 + n % 60 = n := by omega
  have hh : n / 3600 < 100 := by omega
  have hm : n / 60 % 60 < 100 := by omega
  have hs : n % 60 < 100 := by omega
  obtain ⟨sign, hsign⟩ : ∃ sign, (if offset < 0 then '-' else '+') = sign := ⟨_, rfl⟩
  have hzulu : sign ≠ 'Z' := by
    rw [← hsign]
    split <;> decide
  have hminus : sign = '-' ↔ offset < 0 := by
    rw [← hsign]
    split <;> simp_all
  have hread : ∀ rest, readTime? rest = some ⟨n / 3600, n / 60 % 60, n % 60, 0, true⟩ →
      readOffset? (sign :: rest) = some (offset * 1000000) := by
    intro rest hrest
    rw [readOffset?_sign hzulu hrest hsum hday]
    simp only [hminus]
    congr 1
    split <;> omega
  simp only [offsetText, hn, hsign]
  split
  next hzero =>
    rw [List.append_nil]
    refine hread _ ?_
    rw [hzero]
    exact readTime?_minutes hh hm
  next =>
    have htext : (sign :: decimalPadded 2 (n / 3600) ++ ':' :: decimalPadded 2 (n / 60 % 60) ++
        ':' :: decimalPadded 2 (n % 60)) =
          sign :: fieldsText (n / 3600) (n / 60 % 60) (n % 60) := by
      simp only [fieldsText, List.append_assoc, List.cons_append]
    rw [htext]
    exact hread _ (readTime?_fields hh hm hs)

theorem mem_offsetText {offset : Int} (hc : c ∈ offsetText offset) :
    c.isDigit ∨ c = '-' ∨ c = '+' ∨ c = ':' := by
  simp only [offsetText, List.mem_append, List.mem_cons] at hc
  obtain ((rfl | hc) | rfl | hc) | hc := hc
  · split <;> decide
  · exact .inl (isDigit_of_mem_decimalPadded c hc)
  · exact .inr (.inr (.inr rfl))
  · exact .inl (isDigit_of_mem_decimalPadded c hc)
  · split at hc
    · cases hc
    · obtain rfl | hc := List.mem_cons.1 hc
      · exact .inr (.inr (.inr rfl))
      · exact .inl (isDigit_of_mem_decimalPadded c hc)

/-- What may stand behind a time: an offset or nothing. -/
def offsetSuffix (offset : Option Int) : List Char := (offset.map offsetText).getD []

theorem mem_offsetSuffix {offset : Option Int} (hc : c ∈ offsetSuffix offset) :
    c.isDigit ∨ c = '-' ∨ c = '+' ∨ c = ':' := by
  cases offset with
  | none => cases hc
  | some offset => exact mem_offsetText hc

theorem head?_offsetSuffix (offset : Option Int) :
    ∀ c ∈ (offsetSuffix offset).head?, c = '-' ∨ c = '+' := by
  intro c hc
  cases offset with
  | none => cases hc
  | some offset =>
    cases hc
    split <;> simp

/-! ### Times of day -/

theorem readClock?_of {clock : Clock} {offset : Int} (htime : ∀ c ∈ time, beginsOffset c = false)
    (hread : readTime? time = some ⟨clock.hour, clock.minute, clock.second, clock.micro, true⟩)
    (hsuffix : suffix = [] ∧ offset = 0 ∨
      suffix.head?.any beginsOffset ∧ readOffset? suffix = some offset) :
    readClock? (time ++ suffix) = some (clock, offset) := by
  have hall : ∀ c ∈ time, (!beginsOffset c) = true := fun c hc => by rw [htime c hc]; rfl
  have hends : ∀ c ∈ suffix.head?, (!beginsOffset c) = false := by
    intro c hc
    obtain ⟨rfl, -⟩ | ⟨hbegins, -⟩ := hsuffix
    · cases hc
    · rw [Option.mem_def.1 hc] at hbegins
      simpa using hbegins
  have htake := takeWhile_append_eq hall hends
  have hdrop := dropWhile_append_eq hall hends
  simp only [readClock?, htake, hdrop, hread, Option.bind_eq_bind, Option.bind_some, clock.of?_eq]
  obtain ⟨rfl, rfl⟩ | ⟨hbegins, hoffset⟩ := hsuffix
  · rfl
  · cases suffix with
    | nil => cases hbegins
    | cons c suffix => simp [hoffset]

theorem Clock.text_eq (c : Clock) : c.text = fieldsText c.hour c.minute c.second ++
    if c.micro = 0 then [] else '.' :: decimalPadded 6 c.micro := by
  simp only [text, fieldsText, List.append_assoc, List.cons_append]

theorem readTime?_clockText (c : Clock) :
    readTime? c.text = some ⟨c.hour, c.minute, c.second, c.micro, true⟩ := by
  obtain ⟨hhour, hminute, hsecond, hmicro⟩ := c.valid
  rw [c.text_eq]
  split
  next hzero =>
    rw [List.append_nil, hzero]
    exact readTime?_fields (by omega) (by omega) (by omega)
  next =>
    rw [readTime?_fraction (by omega) (by omega) (by omega) isDigit_of_mem_decimalPadded
      (length_decimalPadded (by decide) hmicro), digitsValue_decimalPadded]

theorem mem_clockText {clock : Clock} (hc : c ∈ clock.text) :
    c.isDigit ∨ c = ':' ∨ c = '.' := by
  rw [clock.text_eq, List.mem_append] at hc
  obtain hc | hc := hc
  · exact (mem_fieldsText hc).imp_right .inl
  · split at hc
    · cases hc
    · obtain rfl | hc := List.mem_cons.1 hc
      · exact .inr (.inr rfl)
      · exact .inl (isDigit_of_mem_decimalPadded c hc)

theorem beginsOffset_of_isDigit (hc : c.isDigit) : beginsOffset c = false := by
  simp [beginsOffset, ne_of_isDigit hc]

/-! ### Dates -/

theorem Date.text_eq (d : Date) : d.text = decimalPadded 4 d.year ++
    '-' :: (decimalPadded 2 d.month ++ '-' :: decimalPadded 2 d.day) := by
  simp only [text, List.append_assoc, List.cons_append]

theorem mem_dateText (hc : c ∈ d.text) : c.isDigit ∨ c = '-' := by
  simp only [d.text_eq, List.mem_append, List.mem_cons] at hc
  obtain hc | rfl | hc | rfl | hc := hc
  · exact .inl (isDigit_of_mem_decimalPadded c hc)
  · exact .inr rfl
  · exact .inl (isDigit_of_mem_decimalPadded c hc)
  · exact .inr rfl
  · exact .inl (isDigit_of_mem_decimalPadded c hc)

theorem Date.lt_of_valid (d : Date) : d.year < 10000 ∧ d.month < 100 ∧ d.day < 100 := by
  obtain ⟨-, hyear, -, hmonth, -, hday⟩ := d.valid
  have hlast := daysInMonth_le d.year d.month
  omega

theorem Date.length_text (d : Date) : d.text.length = 10 := by
  obtain ⟨hyear, hmonth, hday⟩ := d.lt_of_valid
  simp [d.text_eq, length_decimalPadded, hyear, hmonth, hday]

/-- Behind the year and its dash stand the month and the day, and that is not how a week begins. -/
theorem Date.text_append_eq (d : Date) (rest : List Char) : ∃ a s, a ≠ 'W' ∧
    decimalPadded 2 d.month ++ '-' :: (decimalPadded 2 d.day ++ rest) = a :: s ∧
      d.text ++ rest = decimalPadded 4 d.year ++ '-' :: a :: s := by
  obtain ⟨a, b, hab, ha, -⟩ := exists_decimalPadded_two d.lt_of_valid.2.1
  refine ⟨a, b :: '-' :: (decimalPadded 2 d.day ++ rest), ne_of_isDigit ha rfl, ?_, ?_⟩
  · rw [hab]
    rfl
  · simp only [d.text_eq, hab, List.append_assoc, List.cons_append, List.nil_append]

theorem readDate?_text (d : Date) (rest : List Char) : readDate? (d.text ++ rest) = some d := by
  obtain ⟨hyear, hmonth, hday⟩ := d.lt_of_valid
  obtain ⟨a, s, hweek, hs, htext⟩ := d.text_append_eq rest
  have hmonthOf : takeNumber? 2 (a :: s) =
      some (d.month, '-' :: (decimalPadded 2 d.day ++ rest)) := by
    rw [← hs, takeNumber?_decimalPadded (by decide) hmonth]
  rw [readDate?, htext, takeNumber?_decimalPadded (by decide) hyear]
  simp only [Option.bind_eq_bind, Option.bind_some]
  split
  next hW => exact absurd (List.cons.inj hW).1 hweek
  next =>
    simp [hmonthOf, readDate?.afterDash?, takeNumber?_decimalPadded (w := 2) (by decide) hday,
      d.of?_eq]

theorem dateEnd_text (d : Date) (rest : List Char) : dateEnd (d.text ++ rest) = 10 := by
  obtain ⟨a, s, hweek, -, htext⟩ := d.text_append_eq rest
  have hlength : (d.text ++ rest).length ≠ 7 := by
    rw [List.length_append, d.length_text]
    omega
  have hdrop : (d.text ++ rest).drop 4 = '-' :: a :: s := by
    rw [htext]
    exact List.drop_left' (length_decimalPadded (by decide) d.lt_of_valid.1)
  rw [dateEnd, if_neg hlength, hdrop]
  split
  next hW => exact absurd (List.cons.inj (List.cons.inj hW).2).1 hweek
  next => rfl
  next hW => cases hW
  next h _ => exact absurd rfl (h _)

theorem readExtended?_text {clock : Clock} {offset : Int}
    (h : rest = [] ∧ clock = .midnight ∧ offset = 0 ∨
      ∃ c s, rest = c :: s ∧ readClock? s = some (clock, offset)) :
    readExtended? (d.text ++ rest) = some (d, clock, offset) := by
  have hlength : ¬(d.text ++ rest).length < 7 := by
    rw [List.length_append, d.length_text]
    omega
  have hdrop : (d.text ++ rest).drop 10 = rest := List.drop_left' d.length_text
  rw [readExtended?, if_neg hlength, readDate?_text, dateEnd_text, hdrop]
  obtain ⟨rfl, rfl, rfl⟩ | ⟨c, s, rfl, hread⟩ := h
  · rfl
  · simp [hread]

end SqlCluster.Time
