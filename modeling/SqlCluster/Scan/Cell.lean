import SqlCluster.Scan.Kind
import SqlCluster.Value.Shown
import SqlCluster.Text.Utf8
import SqlCluster.Time.Reading

/-!
Reading a cell as a kind. Documents are loosely typed: a number may come as text, a boolean as one
or zero, an instant as text or as seconds since 1970. A reading is exact or it fails; integers must
fit their width.
-/

namespace SqlCluster

/-- What a cell was read as. -/
inductive Reading where
  | int (n : Int)
  | float (x : Double)
  | text (s : String)
  | bool (b : Bool)
  | bytes (bs : List UInt8)
  | time (t : Time.Instant)
  deriving DecidableEq

/-- What an absent reading of a target counts as where a value is needed: zero, false or what is
empty; an absent time has no such value. -/
def Target.absent? : Target → Option Reading
  | int64 | int32 | int16 => some (.int 0)
  | float => some (.float (.zero false))
  | text => some (.text "")
  | bool => some (.bool false)
  | bytes => some (.bytes [])
  | time => none

/-- A cell as a kind: the value itself, a reading, or a reading that may be absent. -/
inductive Cell where
  | raw (v : Value)
  | plain (r : Reading)
  | nullable (target : Target) (r : Option Reading)

/-- Why a cell cannot be read. Most causes are mismatches of value and kind. The last three are
not: a double or the calendar is too small for the number or the time, or a message would have to
show an integer that is too long to be written. -/
inductive ScanError where
  | mismatch (v : Value) (column : String) (target : Target)
  | overflow (n : Int) (column : String) (target : Target)
  | invalidTime (s column : String)
  | epochOutOfRange (v : Value) (column : String)
  | nullInPlain (column : String) (kind : PlainKind)
  | unknownKind (kind : Kind) (column : String)
  | unknownKindAt (kind : Kind) (position : Nat)
  | beyondDoubles
  | beyondCalendar
  | unwritableInteger

namespace ScanError

/-- A kind in messages. -/
def shownKind : Kind → String
  | .foreign name => "<class '" ++ name ++ "'>"
  | .word s => Text.quoted s
  | .raw => "<class 'object'>"
  | .plain k => "<class '" ++ k.name ++ "'>"
  | .nullable t => "<class '" ++ t.nullableName ++ "'>"

/-- A cause in words. -/
def message : ScanError → String
  | mismatch v column target =>
    "cannot scan " ++ v.typeName ++ " value " ++ v.shown ++ " of column " ++ Text.quoted column ++
      " into " ++ target.name
  | overflow n column target =>
    "value " ++ n.repr ++ " of column " ++ Text.quoted column ++ " overflows " ++ target.name
  | invalidTime s column =>
    "invalid time value " ++ Text.quoted s ++ " in column " ++ Text.quoted column
  | epochOutOfRange v column =>
    "epoch value " ++ v.shown ++ " of column " ++ Text.quoted column ++ " is out of range"
  | nullInPlain column kind =>
    "cannot scan NULL of column " ++ Text.quoted column ++ " into " ++ kind.name ++ "; use " ++
      kind.target.nullableName
  | unknownKind kind column =>
    "unknown kind " ++ shownKind kind ++ " to scan column " ++ Text.quoted column ++ " into"
  | unknownKindAt kind position =>
    "unknown kind " ++ shownKind kind ++ " for column #" ++ position.repr
  | beyondDoubles => "int too large to convert to float"
  | beyondCalendar => "date value out of range"
  | unwritableInteger => "integer too long to be written"

end ScanError

namespace Cell

/-- Refuses a value for a cause that shows it. -/
def refuse {α : Type} (v : Value) (cause : ScanError) : Except ScanError α :=
  .error (if v.isWritable then cause else .unwritableInteger)

/-- Refuses a value for a target. -/
def mismatch {α : Type} (v : Value) (column : String) (target : Target) : Except ScanError α :=
  refuse v (.mismatch v column target)

/-- The integer that a value denotes exactly. -/
def integer? : Value → Option Int
  | .int n => some n
  | .float x => x.toInt?
  | .text s => Numeral.readInt? (Text.trim Text.isBlank s.toList)
  | _ => none

/-- Whether an integer fits a signed word. -/
def fits (bits : Nat) (n : Int) : Bool := -Int.pow 2 (bits - 1) ≤ n && n < Int.pow 2 (bits - 1)

/-- Reads a value as an integer of a width. -/
def readInt (v : Value) (column : String) (target : Target) : Except ScanError Int :=
  match integer? v with
  | none => mismatch v column target
  | some n =>
    if fits target.bits n then .ok n else refuse (.int n) (.overflow n column target)

/-- Reads a value as a double. -/
def readFloat (v : Value) (column : String) : Except ScanError Double :=
  match v with
  | .float x => .ok x
  | .int n => match Double.ofInt? n with
    | some x => .ok x
    | none => .error .beyondDoubles
  | .text s => match Numeral.readDouble? s.toList with
    | some x => .ok x
    | none => mismatch v column .float
  | _ => mismatch v column .float

/-- Reads a value as text. -/
def readText (v : Value) (column : String) : Except ScanError String :=
  match v with
  | .text s => .ok s
  | _ => mismatch v column .text

/-- The texts that stand for true. -/
def trueTexts : List String := ["1", "t", "T", "TRUE", "true", "True"]

/-- The texts that stand for false. -/
def falseTexts : List String := ["0", "f", "F", "FALSE", "false", "False"]

/-- The truth value that a value stands for. -/
def truth? : Value → Option Bool
  | .bool b => some b
  | .int n => if n = 1 then some true else if n = 0 then some false else none
  | .float x =>
    if x.toInt? = some 1 then some true else if x.toInt? = some 0 then some false else none
  | .text s =>
    if s ∈ trueTexts then some true else if s ∈ falseTexts then some false else none
  | _ => none

/-- Reads a value as a truth value. -/
def readBool (v : Value) (column : String) : Except ScanError Bool :=
  match truth? v with
  | some b => .ok b
  | none => mismatch v column .bool

/-- Reads a value as bytes. -/
def readBytes (v : Value) (column : String) : Except ScanError (List UInt8) :=
  match v with
  | .bytes bs => .ok bs
  | .text s => .ok (Text.Utf8.encode s.toList)
  | _ => mismatch v column .bytes

/-- The whole seconds of a number. -/
def seconds? : Value → Option Int
  | .int n => some n
  | .float x => x.truncate?
  | _ => none

/-- Reads a value as an instant. -/
def readTime (v : Value) (column : String) : Except ScanError Time.Instant :=
  match v with
  | .text s => match Time.readInstant s.toList with
    | .ok i => .ok i
    | .error .invalid => .error (.invalidTime s column)
    | .error .outOfCalendar => .error .beyondCalendar
  | .int _ | .float _ => match (seconds? v).bind Time.Instant.ofEpoch? with
    | some i => .ok i
    | none => refuse v (.epochOutOfRange v column)
  | _ => mismatch v column .time

/-- Reads a value that is not null as a target. -/
def read (v : Value) (column : String) : Target → Except ScanError Reading
  | .int64 => (readInt v column .int64).map .int
  | .int32 => (readInt v column .int32).map .int
  | .int16 => (readInt v column .int16).map .int
  | .float => (readFloat v column).map .float
  | .text => (readText v column).map .text
  | .bool => (readBool v column).map .bool
  | .bytes => (readBytes v column).map .bytes
  | .time => (readTime v column).map .time

/-- Whether a value is null. -/
def isNull : Value → Bool
  | .null => true
  | _ => false

/-- Converts a value of a column to a kind. -/
def convert (v : Value) (column : String) : Kind → Except ScanError Cell
  | .raw => .ok (.raw v)
  | .nullable target =>
    if isNull v then .ok (.nullable target none)
    else (read v column target).map fun r => .nullable target (some r)
  | .plain kind =>
    if isNull v then .error (.nullInPlain column kind)
    else (read v column kind.target).map .plain
  | kind => .error (.unknownKind kind column)

end Cell

end SqlCluster
