import SqlCluster.Operation
import SqlCluster.Json.Writer
import SqlCluster.Value.Shown

/-!
Statements and the batches they are sent in. A batch is written as a JSON list with one list per
statement: `true` if the statement returns rows of what it changes, its text, then its arguments.
Dates and local times are written as text. A batch is refused for its operation first, then for its
statements from the first one on, and only then for numbers that have no JSON text.
-/

namespace SqlCluster

/-- A statement with its positional arguments. -/
structure Statement where
  sql : String
  arguments : List Value := []
  returning : Bool := false

/-- Why a value is no statement, or a batch cannot be written. -/
inductive EncodeError where
  | argumentsNotASequence (arguments : Value)
  | notIterable
  | notAStatement (typeName : String)
  | wrongOperation (op : Operation)
  | returning (index : Nat)
  | unsupportedArgument (index position : Nat) (typeName : String)
  | unwritable (cause : Json.WriteError)

/-- A cause in words. -/
def EncodeError.message : EncodeError → String
  | argumentsNotASequence v =>
    "arguments must be a sequence of values, not " ++ v.typeName ++ "; use (" ++ v.shown ++
      ",) for a single argument"
  | notIterable => "not iterable"
  | notAStatement name => "expected SQL text or Statement, got " ++ name
  | wrongOperation op => "cannot encode statements for the " ++ op.name ++ " operation"
  | returning index =>
    "statement #" ++ index.repr ++ ": RETURNING is only supported by the unified request endpoint"
  | unsupportedArgument index position name =>
    "statement #" ++ index.repr ++ ": unsupported argument #" ++ position.repr ++ " of type " ++
      name
  | unwritable cause => cause.message

namespace Statement

/-- The statement of a text and of what is given as its arguments: a list, or anything else whose
members can be gone through, but no text and no bytes. -/
def of (sql : String) (arguments : Value) (returning : Bool) : Except EncodeError Statement :=
  match arguments with
  | .text _ | .bytes _ => .error (.argumentsNotASequence arguments)
  | _ => match arguments.members? with
    | some members => .ok ⟨sql, members, returning⟩
    | none => .error .notIterable

/-- The statement that a value is: a text without arguments, or a statement. -/
def ofValue : Value → Except EncodeError Statement
  | .text sql => .ok ⟨sql, [], false⟩
  | .statement sql arguments returning => .ok ⟨sql, arguments, returning⟩
  | v => .error (.notAStatement v.typeName)

/-- The statements that a value holds: one, or those that are its members. -/
def listOf (v : Value) : Except EncodeError (List Statement) :=
  match v with
  | .text _ | .statement .. => do return [← ofValue v]
  | _ => match v.members? with
    | some members => members.mapM ofValue
    | none => .error .notIterable

/-- An argument as it is written: what JSON knows as it is, dates and local times as text. -/
def wireArgument? : Value → Option Value
  | .null => some .null
  | .bool b => some (.bool b)
  | .int n => some (.int n)
  | .float x => some (.float x)
  | .text s => some (.text s)
  | .date d => some (.text (String.ofList d.text))
  | .datetime t => some (.text (String.ofList t.text))
  | _ => none

/-- The arguments of a statement from a position on, as they are written. -/
def wireArguments (index : Nat) : (position : Nat) → List Value → Except EncodeError (List Value)
  | _, [] => .ok []
  | position, v :: vs =>
    match wireArgument? v with
    | none => .error (.unsupportedArgument index position v.typeName)
    | some w => do return w :: (← wireArguments index (position + 1) vs)

/-- A statement as the list that is written for it. -/
def wire (op : Operation) (index : Nat) (s : Statement) : Except EncodeError (List Value) :=
  if s.returning ∧ op ≠ .request then .error (.returning index)
  else do
    return (if s.returning then [.bool true] else []) ++ .text s.sql ::
      (← wireArguments index 0 s.arguments)

/-- The statements of a batch from an index on, as the lists that are written for them. -/
def wireBatch (op : Operation) : (index : Nat) → List Statement → Except EncodeError (List Value)
  | _, [] => .ok []
  | index, s :: ss => do
    let w ← s.wire op index
    return .list w :: (← wireBatch op (index + 1) ss)

/-- The body of a batch. -/
def encodeBatch (op : Operation) (batch : List Statement) : Except EncodeError (List Char) :=
  if !op.takesStatements then .error (.wrongOperation op)
  else do
    let wire ← wireBatch op 0 batch
    match Json.write (.list wire) with
    | .ok s => .ok s
    | .error cause => .error (.unwritable cause)

end Statement

end SqlCluster
