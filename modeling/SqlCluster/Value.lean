import SqlCluster.Number.Double
import SqlCluster.Number.Numeral
import SqlCluster.Time.Instant
import SqlCluster.Dict

/-!
Values: what a JSON document holds and what a caller hands in. Documents hold null, booleans,
integers of any size, doubles, texts, lists and dictionaries. Callers may also hand in bytes, dates,
local times, statements and objects of types that the library does not know.
-/

namespace SqlCluster

/-- A value of a document or of a caller. -/
inductive Value where
  | null
  | bool (b : Bool)
  | int (n : Int)
  | float (x : Double)
  | text (s : String)
  | bytes (bs : List UInt8)
  | list (items : List Value)
  | dict (entries : List (String × Value))
  | date (d : Time.Date)
  | datetime (t : Time.LocalTime)
  | object (typeName : String)
  | statement (sql : String) (arguments : List Value) (returning : Bool)

namespace Value

instance : Inhabited Value := ⟨null⟩

/-- The name of the type of a value. -/
def typeName : Value → String
  | null => "NoneType"
  | bool _ => "bool"
  | int _ => "int"
  | float _ => "float"
  | text _ => "str"
  | bytes _ => "bytes"
  | list _ => "list"
  | dict _ => "dict"
  | date _ => "date"
  | datetime _ => "datetime"
  | object name => name
  | statement .. => "Statement"

/-- Whether a value counts as present: null, false, zero and what is empty do not. -/
def isTruthy : Value → Bool
  | null => false
  | bool b => b
  | int n => n != 0
  | float x => !x.isZero
  | text s => s != ""
  | bytes bs => !bs.isEmpty
  | list items => !items.isEmpty
  | dict entries => !entries.isEmpty
  | date _ | datetime _ | object _ | statement .. => true

/-- The members of a value that can be gone through one by one: the items of a list, the keys of a
dictionary, the characters of a text and the numbers of bytes. -/
def members? : Value → Option (List Value)
  | list items => some items
  | dict entries => some (entries.map fun (k, _) => text k)
  | text s => some (s.toList.map fun c => text (String.singleton c))
  | bytes bs => some (bs.map fun b => int b.toNat)
  | _ => none

/-- The value under a key of a dictionary. -/
def field? (key : String) : Value → Option Value
  | dict entries => Dict.get? entries key
  | _ => none

/-- The value under a key of a dictionary, null where there is none. -/
def field (key : String) (v : Value) : Value := (v.field? key).getD null

mutual

/-- Whether every integer in a value is short enough to be written. -/
def isWritable : Value → Bool
  | int n => Numeral.isWritable n
  | list items => areWritable items
  | dict entries => entriesAreWritable entries
  | statement _ arguments _ => areWritable arguments
  | _ => true

/-- Whether every integer in a list of values is short enough to be written. -/
def areWritable : List Value → Bool
  | [] => true
  | v :: vs => v.isWritable && areWritable vs

/-- Whether every integer in the entries of a dictionary is short enough to be written. -/
def entriesAreWritable : List (String × Value) → Bool
  | [] => true
  | (_, v) :: es => v.isWritable && entriesAreWritable es

end

end Value

end SqlCluster
