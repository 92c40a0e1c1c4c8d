import SqlCluster.Value
import SqlCluster.Number.Shortest
import SqlCluster.Text.Quoted

/-!
Values in messages. Texts and bytes stand in quotes, lists in brackets, dictionaries in braces and
the arguments of a statement in parentheses; null, true and false have words of their own.
-/

namespace SqlCluster

/-- A text within other text, joined from pieces with a separator between them. -/
def joined (sep : String) (pieces : List String) : String := String.intercalate sep pieces

/-- Texts between an opening and a closing one, separated by commas. -/
def bracketed (opening closing : String) (pieces : List String) : String :=
  opening ++ joined ", " pieces ++ closing

/-- A date or time by the numbers it is made of. -/
def shownCall (name : String) (numbers : List Nat) (more : List String) : String :=
  bracketed (name ++ "(") ")" (numbers.map Nat.repr ++ more)

/-- An offset from UTC in messages. -/
def shownOffset (offset : Int) : String :=
  if offset = 0 then "datetime.timezone.utc"
  else
    let days := offset / 86400
    let seconds := offset % 86400
    let parts := (if days = 0 then [] else ["days=" ++ days.repr]) ++
      if seconds = 0 then [] else ["seconds=" ++ seconds.repr]
    "datetime.timezone(" ++ bracketed "datetime.timedelta(" ")" parts ++ ")"

/-- A date in messages. -/
def Time.Date.shown (d : Time.Date) : String :=
  shownCall "datetime.date" [d.year, d.month, d.day] []

/-- A local time in messages: its seconds and microseconds stand only where they are needed. -/
def Time.LocalTime.shown (t : Time.LocalTime) : String :=
  let clock :=
    if t.clock.micro ≠ 0 then [t.clock.second, t.clock.micro]
    else if t.clock.second ≠ 0 then [t.clock.second]
    else []
  shownCall "datetime.datetime"
    ([t.date.year, t.date.month, t.date.day, t.clock.hour, t.clock.minute] ++ clock)
    ((t.offset.map fun o => "tzinfo=" ++ shownOffset o).toList)

namespace Value

mutual

/-- A value as messages show it. -/
def shown : Value → String
  | null => "None"
  | bool true => "True"
  | bool false => "False"
  | int n => n.repr
  | float x => String.ofList x.text
  | text s => Text.quoted s
  | bytes bs => Text.quotedBytes bs
  | list items => bracketed "[" "]" (shownAll items)
  | dict entries => "\x7b" ++ joined ", " (shownEntries entries) ++ "\x7d"
  | date d => d.shown
  | datetime t => t.shown
  | object name => "<" ++ name ++ ">"
  | statement sql arguments returning =>
    let tuple := match shownAll arguments with
      | [a] => "(" ++ a ++ ",)"
      | as => bracketed "(" ")" as
    "Statement(sql=" ++ Text.quoted sql ++ ", arguments=" ++ tuple ++ ", returning=" ++
      (if returning then "True" else "False") ++ ")"

/-- The values of a list as messages show them. -/
def shownAll : List Value → List String
  | [] => []
  | v :: vs => v.shown :: shownAll vs

/-- The entries of a dictionary as messages show them. -/
def shownEntries : List (String × Value) → List String
  | [] => []
  | (k, v) :: es => (Text.quoted k ++ ": " ++ v.shown) :: shownEntries es

end

/-- A value as plain text: a text as it is, a date or time in its usual layout, anything else as
messages show it. -/
def plainText : Value → String
  | text s => s
  | date d => String.ofList d.text
  | datetime t => String.ofList (t.text.map fun c => if c = 'T' then ' ' else c)
  | v => v.shown

end Value

end SqlCluster
