import SqlCluster.Proofs.Cursor.Agreement
import SqlCluster.Proofs.Cursor.Visits
import SqlCluster.Proofs.Outcome.Tables
import SqlCluster.Proofs.Outcome.Writable
import SqlCluster.Proofs.Scan.Overflow

/-!
Errors of cursors. Reading a decoded row fails for the state of the cursor or because a value does
not match its kind, unless the row comes to a value that exceeds its kind, with only convertible
ones before it (`Cursor.scan_errors_iff`). A dictionary is read like a scan as the kinds that are
suggested, and a walk like the dictionaries of its rows (`Cursor.errors_iff_of_decode`).
-/

namespace SqlCluster

/-- An error that is meant for readers of rows: the state of the cursor, or a value that does not
match its kind. -/
def CursorError.IsMeant : CursorError → Prop
  | cell cause => cause.IsMismatch
  | beforeFirst _ | behindLast _ | kindCount _ _ => True

/-- Whether every integer in the rows of a table is short enough to be written. -/
def Table.IsWritable (t : Table) : Prop := ∀ row ∈ t.rows, ∀ v ∈ row, v.isWritable

namespace Cursor

/-- A row on which a cursor stands comes to a value that exceeds its kind: the kinds are known, one
for each column, and the slots before that value are converted. -/
structure Exceeds (c : Cursor) (kinds : List Kind) : Prop where
  count : kinds.length = c.table.columns.length
  known : ∀ kind ∈ kinds, kind.isKnown
  slot : ∃ row, c.StandsOn row ∧ ∃ before p behind,
    (c.table.slots row).zip kinds = before ++ p :: behind ∧
      (∀ p' ∈ before, ∃ cell, Cell.convert p'.1.value p'.1.column p'.2 = .ok cell) ∧
      p.2.IsExceededBy p.1.value

/-- A walk through so many rows comes to one that exceeds the kinds that are suggested, after rows
that are read. -/
def WalkExceeds (c : Cursor) (take : Option Nat) : Prop :=
  ∃ j, (∀ l ∈ take, j < l) ∧ c.advances + j < c.table.rows.length ∧
    (∀ i < j, ∃ d, (reached c.table (c.advances + i + 1)).map = .ok d) ∧
    (reached c.table (c.advances + j + 1)).Exceeds c.table.suggestedKinds

variable {c : Cursor} {row : List Value} {kinds : List Kind}

theorem isMeant_of_isState {e : CursorError} (h : e.IsState) : e.IsMeant := by
  cases e with
  | cell cause => exact h.elim
  | _ => trivial

theorem isWritable_of_mem_slots {t : Table} {s : Slot} (hrow : ∀ v ∈ row, v.isWritable)
    (hs : s ∈ t.slots row) : s.value.isWritable := by
  obtain ⟨i, hi, rfl⟩ := List.mem_mapIdx.1 hs
  dsimp only
  cases hcell : row[i]? with
  | none => rfl
  | some v => exact hrow v (List.mem_of_getElem? hcell)

theorem convertAll_errors_iff {t : Table} (hrow : ∀ v ∈ row, v.isWritable) :
    (∀ e, convertAll t.columns kinds row = .error e → e.IsMismatch) ↔
      ¬∃ before p behind, (t.slots row).zip kinds = before ++ p :: behind ∧
        (∀ p' ∈ before, ∃ cell, Cell.convert p'.1.value p'.1.column p'.2 = .ok cell) ∧
        p.2.IsExceededBy p.1.value := by
  rw [convertAll_eq_mapM t.columns t.types]
  exact mapM_errors_iff fun p hp =>
    Cell.convert_errors_iff (isWritable_of_mem_slots hrow (List.of_mem_zip hp).1) _ _

theorem isMismatch_of_unknownKind? {position : Nat} {cause : ScanError}
    (h : unknownKind? position kinds = some cause) : cause.IsMismatch := by
  induction kinds generalizing position with
  | nil => cases h
  | cons kind kinds ih =>
    rw [unknownKind?] at h
    split at h
    · exact ih h
    · cases h
      trivial

theorem StandsOn.eq {row' : List Value} (h : c.StandsOn row) (h' : c.StandsOn row') :
    row = row' := by
  have hrow : c.row .scan = .ok row := row_eq_ok.2 h
  rw [row_eq_ok.2 h'] at hrow
  cases hrow
  rfl

theorem StandsOn.not_isOff (h : c.StandsOn row) : ¬c.IsOff := by
  obtain ⟨-, e, he, -⟩ | ⟨hon, -⟩ := c.isOff_or_standsOn .raw
  · rw [row_eq_ok.2 h] at he
    cases he
  · exact hon

theorem Exceeds.not_isOff (h : c.Exceeds kinds) : ¬c.IsOff := by
  obtain ⟨row, hrow, -⟩ := h.slot
  exact hrow.not_isOff

theorem scan_errors_iff (ht : c.table.IsWritable) (kinds : List Kind) :
    (∀ e, c.scan kinds = .error e → e.IsMeant) ↔ ¬c.Exceeds kinds := by
  by_cases hcount : kinds.length = c.table.columns.length
  swap
  · refine iff_of_true (fun e he => ?_) fun h => hcount h.count
    rw [scan, if_pos hcount] at he
    cases he
    trivial
  obtain ⟨hoff, e, he, hstate⟩ | ⟨hon, row, hrow⟩ := c.isOff_or_standsOn .scan
  · refine iff_of_true (fun e' he' => ?_) fun h => h.not_isOff hoff
    rw [scan, if_neg (not_not.2 hcount), he] at he'
    cases he'
    exact isMeant_of_isState hstate
  by_cases hknown : ∀ kind ∈ kinds, kind.isKnown
  swap
  · refine iff_of_true (fun e he => ?_) fun h => hknown h.known
    cases hkind : unknownKind? 0 kinds with
    | none => exact absurd (unknownKind?_eq_none_iff.1 hkind) hknown
    | some cause =>
      rw [scan, if_neg (not_not.2 hcount), row_eq_ok.2 hrow] at he
      simp only [bind, Except.bind, hkind] at he
      cases he
      exact isMismatch_of_unknownKind? hkind
  have hexceeds : c.Exceeds kinds ↔ ∃ before p behind,
      (c.table.slots row).zip kinds = before ++ p :: behind ∧
        (∀ p' ∈ before, ∃ cell, Cell.convert p'.1.value p'.1.column p'.2 = .ok cell) ∧
        p.2.IsExceededBy p.1.value := by
    constructor
    · rintro ⟨-, -, row', hrow', h⟩
      rwa [hrow.eq hrow']
    · exact fun h => ⟨hcount, hknown, row, hrow, h⟩
  obtain ⟨k, -, hk⟩ := id hrow
  rw [hexceeds, ← convertAll_errors_iff (ht row (List.mem_of_getElem? hk)),
    scan_of_standsOn hrow hcount hknown]
  cases convertAll c.table.columns kinds row <;> simp [Except.mapError, CursorError.IsMeant]

theorem map_errors_iff (ht : c.table.IsWritable) :
    (∀ e, c.map = .error e → e.IsMeant) ↔ ¬c.Exceeds c.table.suggestedKinds := by
  obtain ⟨hoff, e, he, hstate⟩ | ⟨hon, row, hrow⟩ := c.isOff_or_standsOn .map
  · refine iff_of_true (fun e' he' => ?_) fun h => h.not_isOff hoff
    rw [map, he] at he'
    cases he'
    exact isMeant_of_isState hstate
  · rw [← scan_errors_iff ht, map_eq_scan hrow]
    simp only [map_eq_error]

theorem rows_errors_iff (ht : c.table.IsWritable) (take : Option Nat) :
    (∀ e, (c.rows take).1 = .error e → e.IsMeant) ↔ ¬c.WalkExceeds take := by
  have hmap (k : Nat) : (∀ e, (reached c.table k).map = .error e → e.IsMeant) ↔
      ¬(reached c.table k).Exceeds c.table.suggestedKinds :=
    map_errors_iff (c := reached c.table k) ht
  simp only [rows_eq_error_iff, WalkExceeds]
  constructor
  · rintro hall ⟨j, hj, hend, hread, hexceeds⟩
    exact (hmap _).1 (fun e he => hall e ⟨j, hj, hend, hread, he⟩) hexceeds
  · rintro hnone e ⟨j, hj, hend, hread, he⟩
    exact (hmap _).2 (fun hexceeds => hnone ⟨j, hj, hend, hread, hexceeds⟩) e he

/-- The values of documents and of decoded tables have no integers that are too long to be shown.
Such a value is converted to a kind or does not match it, unless it exceeds it; and reading the rows
of a decoded table fails as it is meant to, unless it comes to a value that exceeds its kind. -/
theorem errors_iff_of_decode {body : List UInt8} {op : Operation} {expected : Option Int}
    {os : List Outcome} {t : Table} (h : Response.decode body op expected = .ok os)
    (ht : .rows t ∈ os) :
    ((∀ bytes v, Json.read bytes = .ok v → v.isWritable) ∧ t.IsWritable) ∧
    (∀ v : Value, v.isWritable → ∀ column kind,
      (∀ e, Cell.convert v column kind = .error e → e.IsMismatch) ↔ ¬kind.IsExceededBy v) ∧
    ∀ c : Cursor, c.table = t →
      (∀ kinds, (∀ e, c.scan kinds = .error e → e.IsMeant) ↔ ¬c.Exceeds kinds) ∧
      ((∀ e, c.map = .error e → e.IsMeant) ↔ ¬c.Exceeds t.suggestedKinds) ∧
      ∀ take, (∀ e, (c.rows take).1 = .error e → e.IsMeant) ↔ ¬c.WalkExceeds take := by
  have hwritable : t.IsWritable := Response.isWritable_of_decode h ht
  refine ⟨⟨fun _ _ => Json.isWritable_of_read, hwritable⟩,
    fun v hv => Cell.convert_errors_iff hv, ?_⟩
  rintro c rfl
  exact ⟨scan_errors_iff hwritable, map_errors_iff hwritable, rows_errors_iff hwritable⟩

/-- A time in the first hour of the calendar, in a place that is ahead of UTC. -/
def earlyTime : String := "0001-01-01T00:00:00+01:00"

theorem readInstant_earlyTime : Time.readInstant earlyTime.toList = .error .outOfCalendar := by
  decide +kernel

/-- A table with an early time in a column that is declared to hold times. -/
def earlyTable : Table := ⟨["at"], ["datetime"], [[.text earlyTime]], .zero false⟩

theorem map_earlyTable :
    ∃ text, Json.write (Outcome.rendered [.rows earlyTable]) = .ok text ∧
      Response.decode (Text.Utf8.encode text) .query (some 1) = .ok [.rows earlyTable] ∧
      ∃ e, map ⟨earlyTable, 1, by decide⟩ = .error e ∧ ¬e.IsMeant := by
  have hrenderable : ∀ t ∈ [earlyTable], (Outcome.rows t).IsRenderable 0 := by
    decide +kernel
  have hkinds : earlyTable.suggestedKinds = [.nullable .time] := by decide +kernel
  have hexceeds : Exceeds ⟨earlyTable, 1, by decide⟩ earlyTable.suggestedKinds := by
    rw [hkinds]
    refine ⟨rfl, by simp [Kind.isKnown], _, ⟨0, rfl, rfl⟩, [], _, [], rfl, nofun, ?_⟩
    exact Time.readInstant_eq_outOfCalendar_iff.1 readInstant_earlyTime
  have hquery : Operation.query ≠ .write := nofun
  obtain ⟨text, htext, hdecode⟩ := Response.decode_tables hquery hrenderable
  have hmap := ((errors_iff_of_decode hdecode (List.mem_singleton.2 rfl)).2.2
    ⟨earlyTable, 1, by decide⟩ rfl).2.1
  refine ⟨text, htext, hdecode, ?_⟩
  simpa using mt hmap.1 (not_not.2 hexceeds)

/-- A time that is read from a document leaves the calendar, which is no mismatch. -/
theorem convert_earlyTime : ∃ text, Json.write (.text earlyTime) = .ok text ∧
    ∃ v e, Json.read (Text.Utf8.encode text) = .ok v ∧
      Cell.convert v "at" (.plain .time) = .error e ∧ ¬e.IsMismatch := by
  refine ⟨_, rfl, .text earlyTime, .beyondCalendar, Json.read_of_write rfl trivial, ?_, id⟩
  simp only [Cell.convert, Cell.isNull, PlainKind.target, Cell.read, Cell.readTime,
    readInstant_earlyTime]
  rfl

end Cursor

end SqlCluster
