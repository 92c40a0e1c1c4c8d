import SqlCluster.Value

/-!
Outcomes: what became of each statement of a batch. A statement failed, changed the database or
returned a table. The failures of a batch travel together with all its outcomes.
-/

namespace SqlCluster

/-- A table of rows that a statement returned. Rows may be shorter or longer than the columns, and
the declared types need not be as many as those. -/
structure Table where
  columns : List String
  types : List String
  rows : List (List Value)
  timing : Double

/-- The failure of the statement at an index of its batch. -/
structure StatementError where
  index : Int
  message : String
  deriving DecidableEq, Repr

/-- What became of a statement. -/
inductive Outcome where
  | failed (error : StatementError)
  | written (lastInsertId rowsAffected : Int) (timing : Double)
  | rows (table : Table)

/-- The failures of a batch, with all its outcomes. -/
structure StatementErrors where
  errors : List StatementError
  outcomes : List Outcome

namespace StatementErrors

/-- The failures in words: their number, then their messages, one a line. -/
def text (e : StatementErrors) : String :=
  if e.errors.isEmpty then ""
  else
    String.intercalate "\n" <|
      ("there were " ++ e.errors.length.repr ++ " statement errors") :: e.errors.map (·.message)

/-- Whether a failure is among those of a batch. -/
def has (e : StatementErrors) (error : StatementError) : Bool := e.errors.contains error

/-- The classes of errors that the failure of a statement belongs to, by name. -/
def classes : List String := ["StatementError", "RqliteError"]

/-- Whether a failure of a class is among those of a batch. -/
def hasClass (e : StatementErrors) (name : String) : Bool :=
  !e.errors.isEmpty && classes.contains name

/-- The failures without repetitions. -/
def distinct (e : StatementErrors) : List StatementError := e.errors.eraseDups

end StatementErrors

namespace Outcome

/-- The failure of a statement, if it failed. -/
def error? : Outcome → Option StatementError
  | failed error => some error
  | _ => none

/-- The failures among the outcomes of a batch, in order. -/
def errors (outcomes : List Outcome) : List StatementError := outcomes.filterMap error?

/-- The outcomes of a batch in which no statement failed, or else the failures. -/
def raiseErrors (outcomes : List Outcome) : Except StatementErrors (List Outcome) :=
  if (errors outcomes).isEmpty then .ok outcomes else .error ⟨errors outcomes, outcomes⟩

end Outcome

end SqlCluster
