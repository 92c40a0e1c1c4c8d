import SqlCluster.Outcome
import SqlCluster.Operation
import SqlCluster.Json.Reader
import SqlCluster.Value.Shown

/-!
Responses: the JSON objects in which a node answers a batch. A response has either an error that
concerns the whole batch or a list with one item per statement. An item with an error is a failed
statement; which of the other two kinds it is follows from the operation, and where that allows
both, from whether it has columns or values. Numbers that are absent count as zero.
-/

namespace SqlCluster.Response

/-- What is wrong with a response. -/
inductive Malformed where
  | notJson (cause : Json.Error)
  | notAnObject
  | noResults
  | wrongCount (expected got : Int)
  | itemNotAnObject (index : Nat)
  | notANumber (field : String) (v : Value)
  | notAnInteger (field : String) (v : Value)
  | notTexts (field : String)
  | notRows
  | noSequenceNumber

/-- Why a response gives no outcomes: the node rejected the whole batch, the response is malformed,
or a time is an integer beyond all doubles. -/
inductive Error where
  | rejected (message : String)
  | malformed (cause : Malformed)
  | beyondDoubles

/-- What is wrong with a response, in words. -/
def Malformed.message : Malformed → String
  | notJson cause => "response is not valid JSON: " ++ cause.message
  | notAnObject => "response is not a JSON object"
  | noResults => "results key is missing from response"
  | wrongCount expected got =>
    "expected " ++ expected.repr ++ " results but got " ++ got.repr
  | itemNotAnObject index => "result #" ++ index.repr ++ " is not an object"
  | notANumber field v => field ++ " is not a number: " ++ v.shown
  | notAnInteger field v => field ++ " is not an integer: " ++ v.shown
  | notTexts field => field ++ " must be a list of strings"
  | notRows => "values must be a list of rows"
  | noSequenceNumber => "sequence_number is missing from response"

/-- A cause in words. -/
def Error.message : Error → String
  | rejected message => message
  | malformed cause => cause.message
  | beyondDoubles => "int too large to convert to float"

/-- The integer in a field, zero if it is null. -/
def integer (field : String) (item : Value) : Except Error Int :=
  match item.field field with
  | .null => .ok 0
  | .int n => .ok n
  | .bool b => .error (.malformed (.notANumber field (.bool b)))
  | v =>
    match v with
    | .float x => match x.toInt? with
      | some n => .ok n
      | none => .error (.malformed (.notAnInteger field v))
    | _ => .error (.malformed (.notAnInteger field v))

/-- The double in a field, zero if it is null. -/
def number (field : String) (item : Value) : Except Error Double :=
  match item.field field with
  | .null => .ok (.zero false)
  | .float x => .ok x
  | .int n => match Double.ofInt? n with
    | some x => .ok x
    | none => .error .beyondDoubles
  | v => .error (.malformed (.notANumber field v))

/-- The text that a value is. -/
def text? : Value → Option String
  | .text s => some s
  | _ => none

/-- The list that a value is. -/
def items? : Value → Option (List Value)
  | .list items => some items
  | _ => none

/-- The texts in a field, none if it is null. -/
def texts (field : String) (item : Value) : Except Error (List String) :=
  match item.field field with
  | .null => .ok []
  | v => match (items? v).bind (·.mapM text?) with
    | some ss => .ok ss
    | none => .error (.malformed (.notTexts field))

/-- The rows of an item, none if its values count as absent. -/
def rows (item : Value) : Except Error (List (List Value)) :=
  let v := item.field "values"
  if !v.isTruthy then .ok []
  else match (items? v).bind (·.mapM items?) with
    | some rows => .ok rows
    | none => .error (.malformed .notRows)

/-- The table that an item holds. -/
def table (item : Value) : Except Error Table := do
  let columns ← texts "columns" item
  let types ← texts "types" item
  let rows ← rows item
  return ⟨columns, types, rows, ← number "time" item⟩

/-- What an item tells of a change of the database. -/
def change (item : Value) : Except Error Outcome := do
  let lastInsertId ← integer "last_insert_id" item
  let rowsAffected ← integer "rows_affected" item
  return .written lastInsertId rowsAffected (← number "time" item)

/-- Whether an item of an operation holds a table. -/
def holdsTable (op : Operation) (item : Value) : Bool :=
  match op with
  | .query => true
  | .write => false
  | _ => (item.field? "columns").isSome || (item.field? "values").isSome

/-- The outcome that the item at an index tells of. -/
def outcome (op : Operation) (index : Nat) (item : Value) : Except Error Outcome :=
  match item with
  | .dict _ =>
    match item.field? "error" with
    | some e => .ok (.failed ⟨index, e.plainText⟩)
    | none => if holdsTable op item then (table item).map .rows else change item
  | _ => .error (.malformed (.itemNotAnObject index))

/-- The outcomes that items tell of from an index on. -/
def outcomes (op : Operation) : (index : Nat) → List Value → Except Error (List Outcome)
  | _, [] => .ok []
  | index, item :: items => do
    let o ← outcome op index item
    return o :: (← outcomes op (index + 1) items)

/-- The object that a response is. -/
def envelope (body : List UInt8) : Except Error Value :=
  match Json.read body with
  | .error cause => .error (.malformed (.notJson cause))
  | .ok (.dict entries) => .ok (.dict entries)
  | .ok _ => .error (.malformed .notAnObject)

/-- The object that a response is, if the node did not reject the whole batch. -/
def accepted (body : List UInt8) : Except Error Value := do
  let v ← envelope body
  let e := v.field "error"
  if e.isTruthy then .error (.rejected e.plainText) else return v

/-- The outcomes of a response to an operation, of which there must be as many as expected. -/
def decode (body : List UInt8) (op : Operation) (expected : Option Int) :
    Except Error (List Outcome) := do
  let v ← accepted body
  match v.field "results" with
  | .list items =>
    match expected with
    | some n =>
      if (items.length : Int) ≠ n then .error (.malformed (.wrongCount n items.length))
      else outcomes op 0 items
    | none => outcomes op 0 items
  | _ => .error (.malformed .noResults)

/-- The number under which a queued batch will be written. -/
def sequenceNumber (body : List UInt8) : Except Error Int := do
  let v ← accepted body
  match v.field "sequence_number" with
  | .int n => .ok n
  | _ => .error (.malformed .noSequenceNumber)

end SqlCluster.Response
