import SqlCluster.Time.Date

/-!
Times of day, local times and instants. An instant is a count of microseconds from the beginning of
the year 1 in UTC that ends before the year 10000, so that each has a date. A local time names the
instant that lies its offset from UTC earlier, if the calendar still holds it.
-/

namespace SqlCluster.Time

/-- The hours, minutes, seconds and microseconds that are times of day. -/
def ValidClock (hour minute second micro : Nat) : Prop :=
  hour < 24 ∧ minute < 60 ∧ second < 60 ∧ micro < 1000000

instance (h m s u : Nat) : Decidable (ValidClock h m s u) := by unfold ValidClock; infer_instance

/-- A time of day. -/
structure Clock where
  hour : Nat
  minute : Nat
  second : Nat
  micro : Nat
  valid : ValidClock hour minute second micro
  deriving DecidableEq

namespace Clock

instance : Inhabited Clock := ⟨⟨0, 0, 0, 0, by decide⟩⟩

/-- The time of day of an hour, a minute, a second and a microsecond. -/
def of? (hour minute second micro : Nat) : Option Clock :=
  if h : ValidClock hour minute second micro then some ⟨hour, minute, second, micro, h⟩ else none

/-- Midnight. -/
def midnight : Clock := ⟨0, 0, 0, 0, by decide⟩

/-- The microseconds since midnight. -/
def toMicros (c : Clock) : Nat :=
  ((c.hour * 60 + c.minute) * 60 + c.second) * 1000000 + c.micro

/-- The time of day so many microseconds after midnight, whole days left out. -/
def ofMicros (n : Nat) : Clock where
  hour := n / 3600000000 % 24
  minute := n / 60000000 % 60
  second := n / 1000000 % 60
  micro := n % 1000000
  valid := by unfold ValidClock; omega

/-- The time as `HH:MM:SS`, with six digits of a fraction unless that is zero. -/
def text (c : Clock) : List Char :=
  Text.decimalPadded 2 c.hour ++ ':' :: Text.decimalPadded 2 c.minute ++
    ':' :: Text.decimalPadded 2 c.second ++
      if c.micro = 0 then [] else '.' :: Text.decimalPadded 6 c.micro

end Clock

/-- The microseconds of a day. -/
def dayMicros : Nat := 86400000000

/-- The number of days of the calendar. -/
def calendarDays : Nat := 3652059

/-- An instant, in microseconds from the beginning of the year 1 in UTC. -/
structure Instant where
  micros : Nat
  inCalendar : micros < calendarDays * dayMicros
  deriving DecidableEq

namespace Instant

/-- The instant of a count of microseconds, if the calendar holds it. -/
def of? (micros : Int) : Option Instant :=
  if h : 0 ≤ micros ∧ micros < calendarDays * dayMicros then some ⟨micros.toNat, by omega⟩ else none

/-- The seconds from the beginning of the calendar to the beginning of the year 1970. -/
def epoch : Nat := 719162 * 86400

/-- The instant so many seconds after the beginning of the year 1970. -/
def ofEpoch? (seconds : Int) : Option Instant := of? ((seconds + epoch) * 1000000)

/-- The instant that a date and a time of day name in a place so many microseconds ahead of UTC. -/
def ofLocal? (date : Date) (clock : Clock) (offset : Int) : Option Instant :=
  of? (date.toDays * dayMicros + clock.toMicros - offset)

/-- The date of an instant. -/
def date (i : Instant) : Date := (Date.ofDays? (i.micros / dayMicros)).getD default

/-- The time of day of an instant. -/
def clock (i : Instant) : Clock := Clock.ofMicros (i.micros % dayMicros)

/-- The instant as `YYYY-MM-DDTHH:MM:SS+00:00`, with a fraction unless that is zero. -/
def text (i : Instant) : List Char :=
  i.date.text ++ 'T' :: i.clock.text ++ ['+', '0', '0', ':', '0', '0']

end Instant

/-- A date and a time of day, perhaps with an offset from UTC in seconds. -/
structure LocalTime where
  date : Date
  clock : Clock
  offset : Option Int
  deriving DecidableEq

/-- An offset from UTC as `+HH:MM`, with seconds unless they are zero. -/
def offsetText (offset : Int) : List Char :=
  let n := offset.natAbs
  (if offset < 0 then '-' else '+') :: Text.decimalPadded 2 (n / 3600) ++
    ':' :: Text.decimalPadded 2 (n / 60 % 60) ++
      if n % 60 = 0 then [] else ':' :: Text.decimalPadded 2 (n % 60)

/-- The local time as `YYYY-MM-DDTHH:MM:SS`, with a fraction unless that is zero and an offset if
it has one. -/
def LocalTime.text (t : LocalTime) : List Char :=
  t.date.text ++ 'T' :: t.clock.text ++ (t.offset.map offsetText).getD []

end SqlCluster.Time
