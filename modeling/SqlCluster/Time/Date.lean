import SqlCluster.Text.Digit

/-!
Dates of the proleptic Gregorian calendar in the years 1 to 9999, and their count in days from the
first of them. The calendar repeats every 400 years of 146097 days; within that period a century
has 36524 days, four years have 1461 and a year has 365, the last century and the last year of
four being one day longer where the leap rule says so.
-/

namespace SqlCluster.Time

/-- Whether a year has a 29th of February. -/
def isLeap (year : Nat) : Bool := year % 4 == 0 && (year % 100 != 0 || year % 400 == 0)

/-- The lengths of the months of a year. -/
def monthLengths (year : Nat) : List Nat :=
  [31, if isLeap year then 29 else 28, 31, 30, 31, 30, 31, 31, 30, 31, 30, 31]

/-- The number of days of a month, zero if there is no such month. -/
def daysInMonth (year month : Nat) : Nat :=
  if month = 0 then 0 else (monthLengths year).getD (month - 1) 0

/-- The number of days from the first day of the calendar to the first day of a year. -/
def daysBeforeYear (year : Nat) : Nat :=
  let y := year - 1
  y * 365 + y / 4 - y / 100 + y / 400

/-- The number of days of a year before a month. -/
def daysBeforeMonth (year month : Nat) : Nat :=
  ((monthLengths year).take (month - 1)).foldr (· + ·) 0

/-- The years, months and days that are dates. -/
def ValidDate (year month day : Nat) : Prop :=
  1 ≤ year ∧ year ≤ 9999 ∧ 1 ≤ month ∧ month ≤ 12 ∧ 1 ≤ day ∧ day ≤ daysInMonth year month

instance (y m d : Nat) : Decidable (ValidDate y m d) := by unfold ValidDate; infer_instance

/-- A date of the calendar. -/
structure Date where
  year : Nat
  month : Nat
  day : Nat
  valid : ValidDate year month day
  deriving DecidableEq

namespace Date

instance : Inhabited Date := ⟨⟨1, 1, 1, by decide⟩⟩

/-- The date of a year, a month and a day. -/
def of? (year month day : Nat) : Option Date :=
  if h : ValidDate year month day then some ⟨year, month, day, h⟩ else none

/-- The number of days from the first day of the calendar to a date. -/
def toDays (d : Date) : Nat := daysBeforeYear d.year + daysBeforeMonth d.year d.month + (d.day - 1)

/-- The year that a day falls into, and the number of days of that year before it. -/
def yearOfDays (n : Nat) : Nat × Nat :=
  let n400 := n / 146097
  let r := n % 146097
  let n100 := min (r / 36524) 3
  let r := r - n100 * 36524
  let n4 := r / 1461
  let r := r % 1461
  let n1 := min (r / 365) 3
  (n400 * 400 + n100 * 100 + n4 * 4 + n1 + 1, r - n1 * 365)

/-- The month and the day that so many days of a year lead to, by the lengths of the months from
a given one on. -/
def monthOfDays (month : Nat) : List Nat → Nat → Nat × Nat
  | [], n => (month, n + 1)
  | l :: ls, n => if n < l then (month, n + 1) else monthOfDays (month + 1) ls (n - l)

/-- The date that lies so many days after the first day of the calendar. -/
def ofDays? (n : Nat) : Option Date :=
  let (year, r) := yearOfDays n
  let (month, day) := monthOfDays 1 (monthLengths year) r
  of? year month day

/-- The day of the week, Monday being zero; the first day of the calendar is a Monday. -/
def weekday (days : Nat) : Nat := days % 7

/-- The date as `YYYY-MM-DD`. -/
def text (d : Date) : List Char :=
  Text.decimalPadded 4 d.year ++ '-' :: Text.decimalPadded 2 d.month ++
    '-' :: Text.decimalPadded 2 d.day

end Date

end SqlCluster.Time
