import SqlCluster.Outcome
import SqlCluster.Scan.Cell
import SqlCluster.Text.Lower

/-!
Cursors: reading a table row by row. A cursor stands before the first row, on a row or behind the
last one, and only moves forward; readers look at the row it stands on and do not move it. It counts
its advances, so that it stands on row `k` after `k + 1` of them, and one more than there are rows
takes it behind the last.
-/

namespace SqlCluster

/-- A table with the place from which it is read. -/
structure Cursor where
  table : Table
  advances : Nat
  advances_le : advances ≤ table.rows.length + 1

/-- What reads the row of a cursor. -/
inductive RowReader where
  | raw
  | map
  | scan
  deriving DecidableEq, Repr

/-- Why a row cannot be read. -/
inductive CursorError where
  | beforeFirst (reader : RowReader)
  | behindLast (reader : RowReader)
  | kindCount (columns kinds : Nat)
  | cell (cause : ScanError)

/-- The name of a reader in messages. -/
def RowReader.name : RowReader → String
  | raw => "raw"
  | map => "map"
  | scan => "scan"

/-- A cause in words. -/
def CursorError.message : CursorError → String
  | beforeFirst reader => "call next() before " ++ reader.name ++ "()"
  | behindLast reader => reader.name ++ "() called after the last row"
  | kindCount columns kinds =>
    "expected " ++ columns.repr ++ " columns but got " ++ kinds.repr ++ " kinds"
  | cell cause => cause.message

namespace Cursor

/-- A cursor before the first row of a table. -/
def ofTable (t : Table) : Cursor := ⟨t, 0, Nat.zero_le _⟩

/-- The place of a cursor as a row number: -1 before the first row, and the number of rows behind
the last. -/
def rowNumber (c : Cursor) : Int := (c.advances : Int) - 1

/-- Moves a cursor to the next row, and tells whether there was one. -/
def next (c : Cursor) : Bool × Cursor :=
  if h : c.advances < c.table.rows.length then
    (true, ⟨c.table, c.advances + 1, by omega⟩)
  else (false, ⟨c.table, c.table.rows.length + 1, Nat.le_refl _⟩)

/-- The row that a cursor stands on. -/
def row (c : Cursor) (reader : RowReader) : Except CursorError (List Value) :=
  match c.advances with
  | 0 => .error (.beforeFirst reader)
  | k + 1 => match c.table.rows[k]? with
    | some row => .ok row
    | none => .error (.behindLast reader)

/-- The current row as it is. -/
def raw (c : Cursor) : Except CursorError (List Value) := c.row .raw

/-- Whether a word occurs in a text. -/
def holdsWord (w : List Char) : List Char → Bool
  | [] => w.isEmpty
  | c :: s => w.isPrefixOf (c :: s) || holdsWord w s

/-- Whether a column of a declared type holds dates or times, by the name of the type. -/
def declaresTime (declared : String) : Bool :=
  let name := Text.lower declared.toList
  holdsWord "date".toList name || holdsWord "time".toList name

/-- A cell of a column as its declared type suggests: an instant where that names a date or time and
the cell is not null, and the value itself otherwise. -/
def guess (column : String) (declared : Option String) (v : Value) : Except ScanError Cell :=
  if !Cell.isNull v && declared.any declaresTime then
    (Cell.readTime v column).map fun i => .plain (.time i)
  else .ok (.raw v)

/-- The cells of a row by column, as the declared types suggest; a cell that is missing is null. -/
def guessAll : (columns types : List String) → (row : List Value) →
    Except ScanError (List (String × Cell))
  | [], _, _ => .ok []
  | column :: columns, types, row => do
    let cell ← guess column types.head? (row.head?.getD .null)
    return (column, cell) :: (← guessAll columns types.tail row.tail)

/-- The current row as a dictionary from columns to cells. -/
def map (c : Cursor) : Except CursorError (Dict Cell) := do
  let row ← c.row .map
  match guessAll c.table.columns c.table.types row with
  | .ok cells => .ok (Dict.ofEntries cells)
  | .error cause => .error (.cell cause)

/-- The first kind, from a position on, that cells cannot be read as. -/
def unknownKind? : (position : Nat) → List Kind → Option ScanError
  | _, [] => none
  | position, kind :: kinds =>
    if kind.isKnown then unknownKind? (position + 1) kinds
    else some (.unknownKindAt kind position)

/-- The cells of a row as kinds, one for each column; a cell that is missing is null. -/
def convertAll : (columns : List String) → List Kind → (row : List Value) →
    Except ScanError (List Cell)
  | column :: columns, kind :: kinds, row => do
    let cell ← Cell.convert (row.head?.getD .null) column kind
    return cell :: (← convertAll columns kinds row.tail)
  | _, _, _ => .ok []

/-- The cells of the current row as kinds, one for each column. -/
def scan (c : Cursor) (kinds : List Kind) : Except CursorError (List Cell) :=
  if kinds.length ≠ c.table.columns.length then
    .error (.kindCount c.table.columns.length kinds.length)
  else do
    let row ← c.row .scan
    match unknownKind? 0 kinds with
    | some cause => .error (.cell cause)
    | none => match convertAll c.table.columns kinds row with
      | .ok cells => .ok cells
      | .error cause => .error (.cell cause)

/-- Advances through at most `limit` rows and reads each as a dictionary. A row that cannot be read
ends the walk, with the cursor on it. -/
def walk : (limit : Nat) → Cursor → Except CursorError (List (Dict Cell)) × Cursor
  | 0, c => (.ok [], c)
  | limit + 1, c =>
    match c.next with
    | (false, c) => (.ok [], c)
    | (true, c) =>
      match c.map with
      | .error cause => (.error cause, c)
      | .ok row =>
        match walk limit c with
        | (.ok rows, c) => (.ok (row :: rows), c)
        | (.error cause, c) => (.error cause, c)

/-- Advances through the remaining rows, or through so many of them, and reads each as a
dictionary. -/
def rows (c : Cursor) (take : Option Nat) : Except CursorError (List (Dict Cell)) × Cursor :=
  walk (take.getD (c.table.rows.length + 1)) c

/-- A cursor in messages. -/
def shown (c : Cursor) : String :=
  "QueryResult(columns=" ++ bracketed "[" "]" (c.table.columns.map Text.quoted) ++ ", rows=" ++
    c.table.rows.length.repr ++ ", row_number=" ++ c.rowNumber.repr ++ ")"

end Cursor

end SqlCluster
