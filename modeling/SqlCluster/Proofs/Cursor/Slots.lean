import SqlCluster.Cursor
import SqlCluster.Proofs.Result

/-!
Slots of a row. A row may be shorter or longer than the columns of its table, and so may be the list
of declared types. Whichever way a row is read, it is read slot by slot, with one slot for each
column (`Cursor.guessAll_eq_mapM`, `Cursor.convertAll_eq_mapM`), so the error is that of the first
slot at fault.
-/

namespace SqlCluster

/-- What a row holds for a column: its name, its declared type, if it has one, and the cell, null if
the row ends before it. -/
structure Slot where
  column : String
  declared : Option String
  value : Value

/-- The slots of a row under columns with declared types. -/
def slotsOf (columns types : List String) (row : List Value) : List Slot :=
  columns.mapIdx fun i column => ⟨column, types[i]?, row[i]?.getD .null⟩

/-- The slots of a row of a table. -/
def Table.slots (t : Table) (row : List Value) : List Slot := slotsOf t.columns t.types row

theorem slotsOf_cons (column : String) (columns types : List String) (row : List Value) :
    slotsOf (column :: columns) types row =
      ⟨column, types.head?, row.head?.getD .null⟩ :: slotsOf columns types.tail row.tail := by
  rw [slotsOf, List.mapIdx_cons, slotsOf]
  simp only [List.getElem?_tail, List.head?_eq_getElem?]

theorem map_column_slots (t : Table) (row : List Value) :
    (t.slots row).map Slot.column = t.columns :=
  List.ext_getElem (by simp [Table.slots, slotsOf]) (by simp [Table.slots, slotsOf])

theorem length_slots (t : Table) (row : List Value) : (t.slots row).length = t.columns.length :=
  List.length_mapIdx

namespace Cursor

variable {c : Cursor} {row : List Value} {kinds : List Kind} {reader : RowReader}

/-- Whether a cursor stands on a row, which is the one before the number of its advances. -/
def StandsOn (c : Cursor) (row : List Value) : Prop :=
  ∃ k, c.advances = k + 1 ∧ c.table.rows[k]? = some row

theorem row_eq_ok : c.row reader = .ok row ↔ c.StandsOn row := by
  rw [Cursor.row, StandsOn]
  cases hk : c.advances with
  | zero => simp
  | succ k => cases hrow : c.table.rows[k]? <;> simp [hrow]

/-- Rows are guessed slot by slot. -/
theorem guessAll_eq_mapM (columns types : List String) (row : List Value) :
    guessAll columns types row = (slotsOf columns types row).mapM fun s =>
      (guess s.column s.declared s.value).map (Prod.mk s.column) := by
  induction columns generalizing types row with
  | nil => rfl
  | cons column columns ih =>
    rw [slotsOf_cons, List.mapM_cons, guessAll, ih]
    cases guess column types.head? (row.head?.getD .null) <;> rfl

/-- Rows are converted slot by slot, each slot to a kind of its own. -/
theorem convertAll_eq_mapM (columns types : List String) (kinds : List Kind) (row : List Value) :
    convertAll columns kinds row = ((slotsOf columns types row).zip kinds).mapM fun p =>
      Cell.convert p.1.value p.1.column p.2 := by
  induction columns generalizing types kinds row with
  | nil => rfl
  | cons column columns ih =>
    cases kinds with
    | nil => rw [List.zip_nil_right]; rfl
    | cons kind kinds => rw [slotsOf_cons, List.zip_cons_cons, List.mapM_cons, convertAll, ih]

/-- On a row, a dictionary holds what its slots are guessed to be. -/
theorem map_of_standsOn (h : c.StandsOn row) :
    c.map = ((guessAll c.table.columns c.table.types row).map Dict.ofEntries).mapError .cell := by
  rw [map, row_eq_ok.2 h]
  cases hcells : guessAll c.table.columns c.table.types row <;>
    simp only [bind, Except.bind, hcells] <;> rfl

theorem unknownKind?_eq_none_iff {position : Nat} :
    unknownKind? position kinds = none ↔ ∀ kind ∈ kinds, kind.isKnown := by
  induction kinds generalizing position with
  | nil => simp [unknownKind?]
  | cons kind kinds ih =>
    rw [unknownKind?, List.forall_mem_cons]
    split
    next hknown => simp [ih, hknown]
    next hknown => simp [hknown]

/-- On a row, kinds that are known are what its slots are converted to. -/
theorem scan_of_standsOn (h : c.StandsOn row) (hcount : kinds.length = c.table.columns.length)
    (hknown : ∀ kind ∈ kinds, kind.isKnown) :
    c.scan kinds = (convertAll c.table.columns kinds row).mapError .cell := by
  rw [scan, if_neg (not_not.2 hcount), row_eq_ok.2 h]
  cases hcells : convertAll c.table.columns kinds row <;>
    simp only [bind, Except.bind, unknownKind?_eq_none_iff.2 hknown, hcells] <;> rfl

end Cursor

end SqlCluster
