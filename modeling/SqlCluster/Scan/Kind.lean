import SqlCluster.Value

/-!
Kinds: what a caller asks a cell to be read as. A plain kind takes no null, a nullable kind takes
it as an absent reading, and the raw kind takes every value as it is. Two plain kinds, `int` and
`Int64`, differ in name only.
-/

namespace SqlCluster

/-- What a cell can be read as. -/
inductive Target where
  | int64
  | int32
  | int16
  | float
  | text
  | bool
  | bytes
  | time
  deriving DecidableEq, Repr

/-- The kinds that take no null. -/
inductive PlainKind where
  | int
  | int64
  | int32
  | int16
  | float
  | text
  | bool
  | bytes
  | time
  deriving DecidableEq, Repr

/-- What a caller asks for: a known kind, a type that is no kind, or a word. -/
inductive Kind where
  | raw
  | plain (kind : PlainKind)
  | nullable (target : Target)
  | foreign (typeName : String)
  | word (s : String)
  deriving DecidableEq, Repr

/-- The target in messages. -/
def Target.name : Target → String
  | int64 => "int"
  | int32 => "int32"
  | int16 => "int16"
  | float => "float"
  | text => "str"
  | bool => "bool"
  | bytes => "bytes"
  | time => "datetime"

/-- The name of the nullable kind of a target. -/
def Target.nullableName : Target → String
  | int64 => "NullInt64"
  | int32 => "NullInt32"
  | int16 => "NullInt16"
  | float => "NullFloat64"
  | text => "NullString"
  | bool => "NullBool"
  | bytes => "NullBytes"
  | time => "NullTime"

/-- The number of bits of an integer target, its sign included. -/
def Target.bits : Target → Nat
  | int32 => 32
  | int16 => 16
  | _ => 64

namespace PlainKind

/-- What a plain kind reads a cell as. -/
def target : PlainKind → Target
  | int | int64 => .int64
  | int32 => .int32
  | int16 => .int16
  | float => .float
  | text => .text
  | bool => .bool
  | bytes => .bytes
  | time => .time

/-- The name of a plain kind. -/
def name : PlainKind → String
  | int => "int"
  | int64 => "Int64"
  | int32 => "Int32"
  | int16 => "Int16"
  | float => "float"
  | text => "str"
  | bool => "bool"
  | bytes => "bytes"
  | time => "datetime"

end PlainKind

/-- Whether cells can be read as a kind. -/
def Kind.isKnown : Kind → Bool
  | raw | plain _ | nullable _ => true
  | foreign _ | word _ => false

end SqlCluster
