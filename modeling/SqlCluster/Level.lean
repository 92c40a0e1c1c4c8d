import SqlCluster.Value.Shown

/-!
Consistency levels: how much a node assures before it answers a query, from what it happens to hold
up to what every node has agreed on.
-/

namespace SqlCluster

/-- How consistent the answers to queries must be. -/
inductive Level where
  | none
  | weak
  | linearizable
  | strong
  deriving DecidableEq, Repr

/-- Why a value is no level. A value is not even refused in words where it holds an integer that is
too long to be written. -/
inductive LevelError where
  | unknown (v : Value)
  | unwritable

/-- A cause in words, where it has some. -/
def LevelError.message? : LevelError → Option String
  | unknown v => some ("unknown consistency level: " ++ v.plainText)
  | unwritable => Option.none

namespace Level

/-- The name of a level. -/
def name : Level → String
  | none => "none"
  | weak => "weak"
  | linearizable => "linearizable"
  | strong => "strong"

/-- The level of a name. -/
def ofName? (s : String) : Option Level :=
  [none, weak, linearizable, strong].find? fun l => l.name = s

/-- The level that a value names. -/
def ofValue (v : Value) : Except LevelError Level :=
  match v with
  | .text s => match ofName? s with
    | some l => .ok l
    | Option.none => .error (.unknown v)
  | v => .error (if v.isWritable then .unknown v else .unwritable)

end Level

end SqlCluster
