import SqlCluster.Time.Instant
import Mathlib.Algebra.GroupWithZero.Nat
import Mathlib.Order.Monotone.Basic

/-!
Dates and days. The days of the calendar are numbered without a gap: each number below
`calendarDays` is that of one date (`Date.exists_ofDays?`, `Date.ofDays?_toDays`). So an instant has
the date and the time of day that add up to it (`Instant.micros_eq`).
-/

namespace SqlCluster.Time

/-- The number of days of a year. -/
def daysInYear (year : Nat) : Nat := if isLeap year then 366 else 365

/-! ### Years -/

/-- The number of a year in the calendar by the periods of 400, 100 and 4 years before it. -/
structure YearParts (year a b c d : Nat) : Prop where
  year_eq : year = a * 400 + b * 100 + c * 4 + d + 1
  centuries : b ≤ 3
  fours : c ≤ 24
  years : d ≤ 3

theorem exists_yearParts {year : Nat} (h : 1 ≤ year) : ∃ a b c d, YearParts year a b c d :=
  ⟨(year - 1) / 400, (year - 1) % 400 / 100, (year - 1) % 100 / 4, (year - 1) % 4,
    by omega, by omega, by omega, by omega⟩

theorem YearParts.daysBeforeYear_eq {year a b c d : Nat} (h : YearParts year a b c d) :
    daysBeforeYear year = a * 146097 + b * 36524 + c * 1461 + d * 365 := by
  obtain ⟨rfl, hb, hc, hd⟩ := h
  have hfour : (a * 400 + b * 100 + c * 4 + d) / 4 = a * 100 + b * 25 + c := by omega
  have hhundred : (a * 400 + b * 100 + c * 4 + d) / 100 = a * 4 + b := by omega
  have hperiod : (a * 400 + b * 100 + c * 4 + d) / 400 = a := by omega
  simp only [daysBeforeYear, Nat.add_sub_cancel, hfour, hhundred, hperiod]
  omega

/-- The last year of four is a leap year, but of the last years of centuries only the fourth. -/
theorem YearParts.isLeap_iff {year a b c d : Nat} (h : YearParts year a b c d) :
    isLeap year ↔ d = 3 ∧ (c = 24 → b = 3) := by
  obtain ⟨rfl, hb, hc, hd⟩ := h
  simp only [isLeap, Bool.and_eq_true, Bool.or_eq_true, beq_iff_eq, bne_iff_ne]
  omega

theorem daysBeforeYear_succ {year : Nat} (h : 1 ≤ year) :
    daysBeforeYear (year + 1) = daysBeforeYear year + daysInYear year := by
  obtain ⟨a, b, c, d, hparts⟩ := exists_yearParts h
  obtain ⟨a', b', c', d', hnext⟩ := exists_yearParts (Nat.le_add_left 1 year)
  have hleap := hparts.isLeap_iff
  rw [hparts.daysBeforeYear_eq, hnext.daysBeforeYear_eq, daysInYear]
  obtain ⟨hyear, hb, hc, hd⟩ := hparts
  obtain ⟨hyear', hb', hc', hd'⟩ := hnext
  split
  next hl =>
    have := hleap.1 hl
    omega
  next hl =>
    have := mt hleap.2 hl
    omega

theorem daysBeforeYear_mono : Monotone daysBeforeYear := by
  refine monotone_nat_of_le_succ fun year => ?_
  obtain rfl | h := Nat.eq_zero_or_pos year
  · exact Nat.le_refl _
  · rw [daysBeforeYear_succ h]
    exact Nat.le_add_right _ _

theorem daysBeforeYear_add_le {a b : Nat} (ha : 1 ≤ a) (h : a < b) :
    daysBeforeYear a + daysInYear a ≤ daysBeforeYear b := by
  rw [← daysBeforeYear_succ ha]
  exact daysBeforeYear_mono h

/-- Days that are less than a year after the first days of two years are the same only if the years
are. -/
theorem year_unique {a b m n : Nat} (ha : 1 ≤ a) (hb : 1 ≤ b) (hm : m < daysInYear a)
    (hn : n < daysInYear b) (h : daysBeforeYear a + m = daysBeforeYear b + n) : a = b := by
  obtain hlt | heq | hgt := Nat.lt_trichotomy a b
  · have := daysBeforeYear_add_le ha hlt
    omega
  · exact heq
  · have := daysBeforeYear_add_le hb hgt
    omega

/-- The last century of four and the last year of four take the day that is left over; it is the
leap day of their last year. -/
theorem yearOfDays_spec (n : Nat) :
    ∃ year r, Date.yearOfDays n = (year, r) ∧ 1 ≤ year ∧ r < daysInYear year ∧
      daysBeforeYear year + r = n := by
  obtain ⟨a, ha⟩ : ∃ a, n / 146097 = a := ⟨_, rfl⟩
  obtain ⟨b, hb⟩ : ∃ b, min (n % 146097 / 36524) 3 = b := ⟨_, rfl⟩
  obtain ⟨c, hc⟩ : ∃ c, (n % 146097 - b * 36524) / 1461 = c := ⟨_, rfl⟩
  obtain ⟨d, hd⟩ : ∃ d, min ((n % 146097 - b * 36524) % 1461 / 365) 3 = d := ⟨_, rfl⟩
  obtain ⟨r, hr⟩ : ∃ r, (n % 146097 - b * 36524) % 1461 - d * 365 = r := ⟨_, rfl⟩
  have hyear : Date.yearOfDays n = (a * 400 + b * 100 + c * 4 + d + 1, r) := by
    simp only [Date.yearOfDays, ha, hb, hc, hd, hr]
  have hparts : YearParts (a * 400 + b * 100 + c * 4 + d + 1) a b c d :=
    ⟨rfl, by omega, by omega, by omega⟩
  have hr365 : r < 365 ∨ r = 365 ∧ d = 3 ∧ (c = 24 → b = 3) := by omega
  refine ⟨_, _, hyear, by omega, ?_, ?_⟩
  · rw [daysInYear]
    split
    next => omega
    next hleap =>
      have := mt hparts.isLeap_iff.2 hleap
      omega
  · rw [hparts.daysBeforeYear_eq]
    omega

theorem yearOfDays_eq {year n : Nat} (hyear : 1 ≤ year) (hn : n < daysInYear year) :
    Date.yearOfDays (daysBeforeYear year + n) = (year, n) := by
  obtain ⟨year', r, hyr, hone, hlt, heq⟩ := yearOfDays_spec (daysBeforeYear year + n)
  obtain rfl := year_unique hone hyear hlt hn heq
  rw [hyr, Nat.add_left_cancel heq]

/-! ### Months -/

theorem sum_monthLengths (year : Nat) : (monthLengths year).sum = daysInYear year := by
  rw [monthLengths, daysInYear]
  split <;> rfl

theorem daysBeforeMonth_eq (year month : Nat) :
    daysBeforeMonth year month = ((monthLengths year).take (month - 1)).sum := rfl

theorem daysInMonth_eq {year month : Nat} (h : 1 ≤ month) :
    daysInMonth year month = (monthLengths year).getD (month - 1) 0 := by
  rw [daysInMonth, if_neg (by omega)]

theorem daysInMonth_le (year month : Nat) : daysInMonth year month ≤ 31 := by
  have hall : ∀ l ∈ monthLengths year, l ≤ 31 := by
    rw [monthLengths]
    split <;> decide
  rw [daysInMonth]
  split
  · omega
  · rw [List.getD_eq_getElem?_getD]
    cases h : (monthLengths year)[month - 1]? with
    | none => exact Nat.zero_le _
    | some l => exact hall l (List.mem_of_getElem? h)

/-- The induction is on the months that are passed over. -/
theorem monthOfDays_eq {ls : List Nat} {month j n : Nat} (h : n < ls.getD j 0) :
    Date.monthOfDays month ls ((ls.take j).sum + n) = (month + j, n + 1) := by
  induction ls generalizing month j with
  | nil => simp at h
  | cons l ls ih =>
    cases j with
    | zero =>
      have hl : n < l := h
      simp [Date.monthOfDays, hl]
    | succ j =>
      have hrest : (List.take (j + 1) (l :: ls)).sum + n = l + ((ls.take j).sum + n) := by
        rw [List.take_succ_cons, List.sum_cons, Nat.add_assoc]
      rw [hrest, Date.monthOfDays, if_neg (by omega), Nat.add_sub_cancel_left, ih h]
      exact Prod.ext (by simp only []; omega) rfl

theorem exists_month {ls : List Nat} {n : Nat} (h : n < ls.sum) :
    ∃ j m, m < ls.getD j 0 ∧ n = (ls.take j).sum + m := by
  induction ls generalizing n with
  | nil => simp at h
  | cons l ls ih =>
    by_cases hl : n < l
    · exact ⟨0, n, hl, by simp⟩
    · rw [List.sum_cons] at h
      obtain ⟨j, m, hm, hn⟩ := ih (n := n - l) (by omega)
      exact ⟨j + 1, m, hm, by rw [List.take_succ_cons, List.sum_cons]; omega⟩

theorem sum_take_add_getD_le (ls : List Nat) (j : Nat) :
    (ls.take j).sum + ls.getD j 0 ≤ ls.sum := by
  induction ls generalizing j with
  | nil => simp
  | cons l ls ih =>
    cases j with
    | zero => simp
    | succ j =>
      have := ih j
      simp only [List.take_succ_cons, List.sum_cons, List.getD_cons_succ]
      omega

/-! ### Dates -/

namespace Date

theorem of?_eq (d : Date) : of? d.year d.month d.day = some d := by
  rw [of?, dif_pos d.valid]

/-- The number of days of its year before a date. -/
def daysOfYear (d : Date) : Nat := daysBeforeMonth d.year d.month + (d.day - 1)

theorem daysOfYear_lt (d : Date) : d.daysOfYear < daysInYear d.year := by
  obtain ⟨-, -, hmonth, -, hday, hlast⟩ := d.valid
  have hle := sum_take_add_getD_le (monthLengths d.year) (d.month - 1)
  rw [sum_monthLengths, ← daysBeforeMonth_eq, ← daysInMonth_eq hmonth] at hle
  rw [daysOfYear]
  omega

theorem toDays_eq (d : Date) : d.toDays = daysBeforeYear d.year + d.daysOfYear :=
  Nat.add_assoc ..

theorem toDays_lt (d : Date) : d.toDays < calendarDays := by
  have hyears := daysBeforeYear_add_le d.valid.1 (Nat.lt_succ_of_le d.valid.2.1)
  have hlt := d.daysOfYear_lt
  have hall : daysBeforeYear (Nat.succ 9999) = calendarDays := by decide
  rw [toDays_eq]
  omega

/-- The date of the number of a date is that date. -/
theorem ofDays?_toDays (d : Date) : ofDays? d.toDays = some d := by
  obtain ⟨hyear, -, hmonth, -, hday, hlast⟩ := d.valid
  rw [daysInMonth_eq hmonth] at hlast
  have hmonthOf : monthOfDays 1 (monthLengths d.year) d.daysOfYear = (d.month, d.day) := by
    rw [daysOfYear, daysBeforeMonth_eq, monthOfDays_eq (by omega)]
    exact Prod.ext (by simp only []; omega) (by simp only []; omega)
  rw [toDays_eq, ofDays?, yearOfDays_eq hyear d.daysOfYear_lt]
  dsimp only
  rw [hmonthOf]
  exact d.of?_eq

theorem toDays_injective {d e : Date} (h : d.toDays = e.toDays) : d = e := by
  have hsame := d.ofDays?_toDays
  rw [h, e.ofDays?_toDays] at hsame
  exact (Option.some.inj hsame).symm

/-- Each day of the calendar has a date. -/
theorem exists_ofDays? {n : Nat} (h : n < calendarDays) :
    ∃ d, ofDays? n = some d ∧ d.toDays = n := by
  obtain ⟨year, r, hyr, hone, hlt, heq⟩ := yearOfDays_spec n
  have hyear : year ≤ 9999 := by
    by_contra hlarge
    have hle : calendarDays ≤ daysBeforeYear year :=
      daysBeforeYear_mono (show 10000 ≤ year by omega)
    omega
  obtain ⟨j, m, hm, rfl⟩ := exists_month (hlt.trans_eq (sum_monthLengths year).symm)
  have hj : j < 12 := by
    by_contra hlarge
    have hlength : (monthLengths year).length ≤ j := Nat.not_lt.1 hlarge
    rw [List.getD_eq_getElem?_getD, List.getElem?_eq_none hlength] at hm
    exact Nat.not_lt_zero _ hm
  have hmonth : daysInMonth year (1 + j) = (monthLengths year).getD j 0 := by
    rw [daysInMonth_eq (by omega), Nat.add_sub_cancel_left]
  have hvalid : ValidDate year (1 + j) (m + 1) := by
    refine ⟨hone, hyear, by omega, by omega, by omega, ?_⟩
    rw [hmonth]
    exact hm
  refine ⟨⟨year, 1 + j, m + 1, hvalid⟩, ?_, ?_⟩
  · rw [ofDays?, hyr]
    dsimp only
    rw [monthOfDays_eq hm]
    exact dif_pos hvalid
  · rw [toDays, daysBeforeMonth_eq]
    simp only [Nat.add_sub_cancel_left, Nat.add_sub_cancel]
    omega

end Date

/-! ### Times of day -/

namespace Clock

theorem of?_eq (c : Clock) : of? c.hour c.minute c.second c.micro = some c := by
  rw [of?, dif_pos c.valid]

theorem toMicros_lt (c : Clock) : c.toMicros < dayMicros := by
  obtain ⟨hhour, hminute, hsecond, hmicro⟩ := c.valid
  rw [toMicros, dayMicros]
  omega

theorem ofMicros_toMicros (c : Clock) : ofMicros c.toMicros = c := by
  obtain ⟨hhour, hminute, hsecond, hmicro⟩ := c.valid
  have hhour' : c.toMicros / 3600000000 % 24 = c.hour := by rw [toMicros]; omega
  have hminute' : c.toMicros / 60000000 % 60 = c.minute := by rw [toMicros]; omega
  have hsecond' : c.toMicros / 1000000 % 60 = c.second := by rw [toMicros]; omega
  have hmicro' : c.toMicros % 1000000 = c.micro := by rw [toMicros]; omega
  cases c
  exact Clock.mk.injEq .. ▸ ⟨hhour', hminute', hsecond', hmicro'⟩

theorem toMicros_ofMicros {n : Nat} (h : n < dayMicros) : (ofMicros n).toMicros = n := by
  rw [dayMicros] at h
  simp only [ofMicros, toMicros]
  omega

end Clock

/-- The seconds from the beginning of the calendar to a date and a time of day. -/
def secondsAt (d : Date) (c : Clock) : Int :=
  d.toDays * 86400 + ((c.hour * 60 + c.minute) * 60 + c.second)

theorem micros_eq_secondsAt (d : Date) (c : Clock) :
    (d.toDays * dayMicros + c.toMicros : Int) = secondsAt d c * 1000000 + c.micro := by
  simp only [dayMicros, Clock.toMicros, secondsAt]
  omega

theorem secondsAt_mem_calendar (d : Date) (c : Clock) :
    0 ≤ secondsAt d c ∧ secondsAt d c < calendarDays * 86400 := by
  have hdays := d.toDays_lt
  obtain ⟨hhour, hminute, hsecond, -⟩ := c.valid
  rw [secondsAt]
  omega

/-! ### Instants -/

namespace Instant

variable {i : Instant} {d : Date} {c : Clock}

/-- An instant is its date and its time of day together. -/
theorem micros_eq (i : Instant) : i.micros = i.date.toDays * dayMicros + i.clock.toMicros := by
  have hdays : i.micros / dayMicros < calendarDays := by
    have := i.inCalendar
    simp only [dayMicros] at *
    omega
  obtain ⟨d, hd, hdate⟩ := Date.exists_ofDays? hdays
  rw [date, hd, Option.getD_some, hdate, clock,
    Clock.toMicros_ofMicros (Nat.mod_lt _ (by decide)), Nat.div_add_mod']

theorem date_eq_clock_eq (h : i.micros = d.toDays * dayMicros + c.toMicros) :
    i.date = d ∧ i.clock = c := by
  have hlt := c.toMicros_lt
  have hi := i.micros_eq
  have hilt := i.clock.toMicros_lt
  rw [dayMicros] at *
  refine ⟨Date.toDays_injective (by omega), ?_⟩
  rw [← Clock.ofMicros_toMicros c, ← Clock.ofMicros_toMicros i.clock]
  exact congrArg Clock.ofMicros (by omega)

theorem date_eq_clock_eq_of_seconds (hseconds : secondsAt i.date i.clock = secondsAt d c)
    (hmicro : i.clock.micro = c.micro) : i.date = d ∧ i.clock = c := by
  have hi := micros_eq_secondsAt i.date i.clock
  rw [hseconds, hmicro, ← micros_eq_secondsAt d c] at hi
  refine date_eq_clock_eq ?_
  rw [i.micros_eq]
  exact_mod_cast hi

theorem of?_eq_some {micros : Int} : of? micros = some i ↔ (i.micros : Int) = micros := by
  have hi := i.inCalendar
  unfold of?
  split
  next h =>
    obtain ⟨n, hn⟩ := i
    simp only [Option.some.injEq, mk.injEq]
    omega
  next h =>
    refine ⟨nofun, fun heq => absurd ?_ h⟩
    rw [← heq]
    exact ⟨Int.natCast_nonneg _, Int.ofNat_lt.2 hi⟩

theorem exists_of? {micros : Int} (hfirst : 0 ≤ micros)
    (hlast : micros < calendarDays * dayMicros) : ∃ i, of? micros = some i :=
  ⟨_, dif_pos ⟨hfirst, hlast⟩⟩

/-- The seconds and microseconds of an instant from the beginning of the calendar are those of its
date and its time of day. -/
theorem secondsAt_eq_of_micros {seconds : Int} {micro : Nat} (hmicro : micro < 1000000)
    (h : (i.micros : Int) = seconds * 1000000 + micro) :
    secondsAt i.date i.clock = seconds ∧ i.clock.micro = micro := by
  have hi := micros_eq_secondsAt i.date i.clock
  have hlt := i.clock.valid.2.2.2
  rw [i.micros_eq] at h
  push_cast at h
  constructor <;> omega

/-- A date and a time of day so many seconds ahead of UTC are those of an instant, if the calendar
holds it. -/
theorem exists_ofLocal? {offset : Int} (hfirst : 0 ≤ secondsAt d c - offset)
    (hlast : secondsAt d c - offset < calendarDays * 86400) :
    ∃ i, ofLocal? d c (offset * 1000000) = some i ∧
      secondsAt i.date i.clock = secondsAt d c - offset ∧ i.clock.micro = c.micro := by
  have hmicro := c.valid.2.2.2
  have hlocal := micros_eq_secondsAt d c
  obtain ⟨i, hi⟩ : ∃ i, ofLocal? d c (offset * 1000000) = some i := by
    refine exists_of? ?_ ?_
    · omega
    · rw [dayMicros] at *
      omega
  have hmicros := of?_eq_some.1 hi
  exact ⟨i, hi, secondsAt_eq_of_micros hmicro (by omega)⟩

/-- A date and a time of day in UTC are those of an instant. -/
theorem exists_ofLocal?_zero (d : Date) (c : Clock) :
    ∃ i, ofLocal? d c 0 = some i ∧ i.date = d ∧ i.clock = c := by
  obtain ⟨hfirst, hlast⟩ := secondsAt_mem_calendar d c
  rw [← Int.sub_zero (secondsAt d c)] at hfirst hlast
  obtain ⟨i, hi, hseconds, hmicro⟩ := exists_ofLocal? hfirst hlast
  rw [Int.sub_zero] at hseconds
  exact ⟨i, hi, date_eq_clock_eq_of_seconds hseconds hmicro⟩

end Instant

end SqlCluster.Time
