import SqlCluster.Time.Instant
import SqlCluster.Text.Blank
import SqlCluster.Text.Split

/-!
Reading an instant from text. The plain layout is `YYYY-MM-DD HH:MM:SS`, in UTC. The extended one
is that of ISO 8601 in most of its forms: a calendar or week date, any one character, a time that
may end after the hour or the minute or go on with a fraction, and an offset; without an offset it
is in UTC too. A fraction counts to the microsecond and is cut off there.
-/

namespace SqlCluster.Time

open Text

/-- Why a text names no instant. -/
inductive ReadingError where
  | invalid
  | outOfCalendar
  deriving DecidableEq, Repr

/-! ### The plain layout -/

/-- The number that decimal digits of any script denote, if all characters are such digits. -/
def decimalNumber? (s : List Char) : Option Nat := (s.mapM decimalValue?).map (ofDigits 10)

/-- A number of one digit, or of two of which the first is an ASCII digit up to a given one. -/
def shortNumber? (high : Char) (s : List Char) : Option Nat :=
  match s with
  | [_] => decimalNumber? s
  | [a, _] => if '0' ≤ a ∧ a ≤ high then decimalNumber? s else none
  | _ => none

/-- A month of one or two digits. -/
def monthNumber? (s : List Char) : Option Nat :=
  match s with
  | [a] => if '1' ≤ a ∧ a ≤ '9' then decimalNumber? s else none
  | ['0', b] => if '1' ≤ b ∧ b ≤ '9' then decimalNumber? s else none
  | ['1', b] => if '0' ≤ b ∧ b ≤ '2' then decimalNumber? s else none
  | _ => none

/-- A day of one or two digits. -/
def dayNumber? (s : List Char) : Option Nat :=
  match s with
  | [a] => if '1' ≤ a ∧ a ≤ '9' then decimalNumber? s else none
  | ['0', b] => if '1' ≤ b ∧ b ≤ '9' then decimalNumber? s else none
  | ['1', _] => decimalNumber? s
  | ['2', _] => decimalNumber? s
  | ['3', b] => if '0' ≤ b ∧ b ≤ '1' then decimalNumber? s else none
  | _ => none

/-- An hour of one or two digits. -/
def hourNumber? (s : List Char) : Option Nat :=
  match s with
  | ['2', b] => if '0' ≤ b ∧ b ≤ '3' then decimalNumber? s else none
  | _ => shortNumber? '1' s

/-- The day at the beginning of a text, and the rest, which begins with a blank. A single digit may
stand behind a space. -/
def cutDay? (s : List Char) : Option (Nat × List Char) := do
  let (day, rest) ← match s with
    | ' ' :: a :: r => if '1' ≤ a ∧ a ≤ '9' then some ([a], r) else none
    | _ => some (s.takeWhile fun c => !isBlank c, s.dropWhile fun c => !isBlank c)
  if rest.head?.any isBlank then some (← dayNumber? day, rest) else none

/-- Reads a text in the plain layout. Any blanks may separate the date from the time. -/
def readPlain? (s : List Char) : Option Instant := do
  let (year, s) ← cutFirst? '-' s
  let (month, s) ← cutFirst? '-' s
  let (day, s) ← cutDay? s
  let (hour, s) ← cutFirst? ':' (s.dropWhile isBlank)
  let (minute, second) ← cutFirst? ':' s
  if year.length ≠ 4 then none
  else
    let date ← Date.of? (← decimalNumber? year) (← monthNumber? month) day
    let clock ← Clock.of? (← hourNumber? hour) (← shortNumber? '5' minute)
      (← shortNumber? '5' second) 0
    Instant.ofLocal? date clock 0

/-! ### The extended layout -/

/-- The number that exactly so many ASCII digits at the beginning of a text denote, and the rest. -/
def takeNumber? (count : Nat) (s : List Char) : Option (Nat × List Char) :=
  let digits := s.take count
  if digits.length = count ∧ digits.all Char.isDigit then
    some (ofDigits 10 (digits.map fun c => c.toNat - 48), s.drop count)
  else none

/-- The date of a day of a week of a year; the first week is the one that holds the 4th of
January. -/
def weekDate? (year week day : Nat) : Option Date :=
  let first := daysBeforeYear year
  let weekday := Date.weekday first
  let long := weekday = 3 ∨ (weekday = 2 ∧ isLeap year)
  if year = 0 ∨ week = 0 ∨ 53 < week ∨ (week = 53 ∧ ¬long) ∨ day = 0 ∨ 7 < day then none
  else
    let offset := (week - 1) * 7 + (day - 1)
    if 3 < weekday then Date.ofDays? (first + (7 - weekday) + offset)
    else if first + offset < weekday then none
    else Date.ofDays? (first + offset - weekday)

/-- Where the date ends in a text in the extended layout. A dash behind a week leads to a day of the
week, unless what follows looks like the hours of a time. -/
def dateEnd (s : List Char) : Nat :=
  if s.length = 7 then 7
  else match s.drop 4 with
    | '-' :: 'W' :: _ => if s[8]? = some '-' ∧ ¬s[10]?.any Char.isDigit then 10 else 8
    | '-' :: _ => 10
    | 'W' :: _ =>
      let pos := 7 + ((s.drop 7).takeWhile Char.isDigit).length
      if pos < 9 then pos else if pos % 2 = 0 then 7 else 8
    | _ => 8

/-- Reads the date at the beginning of a text in the extended layout. -/
def readDate? (s : List Char) : Option Date := do
  let (year, rest) ← takeNumber? 4 s
  let (dashed, rest) := match rest with
    | '-' :: r => (true, r)
    | r => (false, r)
  match rest with
  | 'W' :: rest =>
    let (week, rest) ← takeNumber? 2 rest
    if s.length - rest.length < dateEnd s then
      let (day, _) ← takeNumber? 1 (← if dashed then afterDash? rest else some rest)
      weekDate? year week day
    else weekDate? year week 1
  | rest =>
    let (month, rest) ← takeNumber? 2 rest
    let (day, _) ← takeNumber? 2 (← if dashed then afterDash? rest else some rest)
    Date.of? year month day
where
  /-- What follows a dash. -/
  afterDash? : List Char → Option (List Char)
    | '-' :: r => some r
    | _ => none

/-- The fields of a time and whether nothing follows them. -/
structure TimeFields where
  hour : Nat
  minute : Nat
  second : Nat
  micro : Nat
  clean : Bool
  deriving DecidableEq, Repr

/-- Whether a text ends here: it is empty or goes on with the null character. -/
def endsHere : List Char → Bool
  | [] => true
  | c :: _ => c == '\x00'

/-- Reads a fraction: its first six digits count, further ones are passed over. -/
def readFraction? (s : List Char) : Option (Nat × Bool) := do
  let count := min 6 s.length
  let (n, rest) ← takeNumber? count s
  some (n * Nat.pow 10 (6 - count), endsHere (rest.dropWhile Char.isDigit))

/-- Reads the fields of a time from the one after those already read. `colons` says whether colons
stand between the fields, which the character after the first field decides. One character of ASCII
may stand behind the fields; whether the text is good with it is for the caller to say. -/
def readFields? : (left : Nat) → (colons : Option Bool) → (found : List Nat) → List Char →
    Option (List Nat × Nat × Bool)
  | 0, _, found, s => do
    let (micro, clean) ← readFraction? s
    some (found, micro, clean)
  | left + 1, colons, found, s => do
    let (n, rest) ← takeNumber? 2 s
    let found := found ++ [n]
    match rest with
    | [] => some (found, 0, true)
    | c :: r =>
      let colons := colons.getD (c = ':')
      if r.isEmpty ∧ c.toNat < 128 then some (found, 0, c = '\x00')
      else if colons ∧ c = ':' then readFields? left (some colons) found r
      else if c = '.' ∨ c = ',' then
        let (micro, clean) ← readFraction? r
        some (found, micro, clean)
      else if colons then none
      else readFields? left (some colons) found (c :: r)

/-- Reads a time without an offset: an hour, then perhaps a minute and a second, then perhaps a
fraction. -/
def readTime? (s : List Char) : Option TimeFields := do
  let (found, micro, clean) ← readFields? 3 none [] s
  some ⟨found.getD 0 0, found.getD 1 0, found.getD 2 0, micro, clean⟩

/-- Whether a character begins an offset. -/
def beginsOffset (c : Char) : Bool := c == '+' || c == '-' || c == 'Z'

/-- Reads an offset from UTC in microseconds, below a day in size. One that is zero up to its
seconds is zero. -/
def readOffset? (s : List Char) : Option Int := do
  let (sign, rest) ← s.head?.map fun c => (c, s.tail)
  if sign = 'Z' then if endsHere rest then some 0 else none
  else
    let t ← readTime? rest
    let seconds := (t.hour * 60 + t.minute) * 60 + t.second
    let micros := seconds * 1000000 + t.micro
    if !t.clean ∨ (seconds ≠ 0 ∧ dayMicros ≤ micros) then none
    else if seconds = 0 then some 0
    else some (if sign = '-' then -(micros : Int) else micros)

/-- Reads the time after a date, with its offset. -/
def readClock? (s : List Char) : Option (Clock × Int) := do
  let time := s.takeWhile fun c => !beginsOffset c
  let rest := s.dropWhile fun c => !beginsOffset c
  let t ← readTime? time
  let offset ← if rest.isEmpty then (if t.clean then some 0 else none) else readOffset? rest
  some (← Clock.of? t.hour t.minute t.second t.micro, offset)

/-- Reads a text in the extended layout. -/
def readExtended? (s : List Char) : Option (Date × Clock × Int) := do
  if s.length < 7 then none
  else
    let date ← readDate? s
    match s.drop (dateEnd s) with
    | [] => some (date, .midnight, 0)
    | _ :: rest =>
      let (clock, offset) ← readClock? rest
      some (date, clock, offset)

/-- A text with a `Z` of either case at its end written as an offset of zero. -/
def withoutZulu (s : List Char) : List Char :=
  match s.reverse with
  | c :: r => if c = 'Z' ∨ c = 'z' then r.reverse ++ ['+', '0', '0', ':', '0', '0'] else s
  | [] => s

/-- The digits of a fraction, cut off or filled up to six. -/
def sixDigits (digits : List Char) : List Char :=
  digits.take 6 ++ List.replicate (6 - digits.length) '0'

/-- Whether a text begins with two digits, and what follows them. -/
def afterTwoDigits? : List Char → Option (List Char)
  | a :: b :: r => if isDecimal a ∧ isDecimal b then some r else none
  | _ => none

/-- What follows a character that a text begins with. -/
def after? (c : Char) : List Char → Option (List Char)
  | a :: r => if a = c then some r else none
  | [] => none

/-- What follows hours, minutes and seconds and a point before a digit. -/
def fraction? (s : List Char) : Option (List Char) := do
  let s ← after? ':' (← afterTwoDigits? s)
  let s ← after? ':' (← afterTwoDigits? s)
  let s ← after? '.' (← afterTwoDigits? s)
  if s.head?.any isDecimal then some s else none

/-- A text with its first fraction of a second brought to six digits. -/
def withSixDigits : List Char → List Char
  | [] => []
  | c :: s =>
    match fraction? (c :: s) with
    | some r =>
      (c :: s).take 9 ++ sixDigits (r.takeWhile isDecimal) ++ r.dropWhile isDecimal
    | none => c :: withSixDigits s

/-- Reads an instant in either layout. -/
def readInstant (s : List Char) : Except ReadingError Instant :=
  match readPlain? s with
  | some i => .ok i
  | none =>
    match readExtended? (withSixDigits (withoutZulu s)) with
    | none => .error .invalid
    | some (date, clock, offset) =>
      match Instant.ofLocal? date clock offset with
      | some i => .ok i
      | none => .error .outOfCalendar

end SqlCluster.Time
