import SqlCluster.Cursor
import SqlCluster.Proofs.Cursor.Slots
import SqlCluster.Proofs.Outcome.Tables
import SqlCluster.Proofs.Scan.Integer
import SqlCluster.Proofs.Statement.Body
import SqlCluster.Proofs.Time.Reading

/-!
Arguments scanned back. What a body holds for the arguments of a statement may come back as a row of
a response. Scanned as kinds that suit the arguments, the row gives the arguments again: booleans,
integers of 64 bits and texts as they are, dates and local times as the instants that they name
(`Statement.scan_of_encodeBatch`).
-/

namespace SqlCluster

open Text Time

/-! ### Cells -/

namespace Statement

/-- What an argument other than null is scanned as. -/
def target? : Value → Option Target
  | .bool _ => some .bool
  | .int _ => some .int64
  | .text _ => some .text
  | .date _ | .datetime _ => some .time
  | _ => none

/-- Whether an argument comes back as it was: null, a boolean, an integer of 64 bits, a text, a date
or a local time that names an instant of the calendar. -/
def ComesBack : Value → Prop
  | .null | .bool _ | .text _ | .date _ => True
  | .int n => -2 ^ 63 ≤ n ∧ n < 2 ^ 63
  | .datetime t => t.InCalendar
  | _ => False

/-- An argument and a kind that suits it: for null any nullable kind, for anything else the kinds of
its target. -/
inductive Suits : Value → Kind → Prop
  | null (target : Target) : Suits .null (.nullable target)
  | plain {v : Value} {kind : PlainKind} : target? v = some kind.target → Suits v (.plain kind)
  | nullable {v : Value} {target : Target} : target? v = some target → Suits v (.nullable target)

/-- An argument other than null and the reading that it must give. A date stands for its midnight in
UTC, a local time without an offset for that time in UTC, and one with an offset for the instant
that lies so many seconds earlier. -/
inductive GivesBack : Value → Reading → Prop
  | bool (b : Bool) : GivesBack (.bool b) (.bool b)
  | int (n : Int) : GivesBack (.int n) (.int n)
  | text (s : String) : GivesBack (.text s) (.text s)
  | date {d : Date} {i : Instant} : i.date = d → i.clock = .midnight →
    GivesBack (.date d) (.time i)
  | naive {d : Date} {c : Clock} {i : Instant} : i.date = d → i.clock = c →
    GivesBack (.datetime ⟨d, c, none⟩) (.time i)
  | aware {d : Date} {c : Clock} {o : Int} {i : Instant} :
    secondsAt i.date i.clock = secondsAt d c - o → i.clock.micro = c.micro →
    GivesBack (.datetime ⟨d, c, some o⟩) (.time i)

/-- An argument, a kind and the cell that the argument must be scanned as. -/
inductive Returns : Value → Kind → Cell → Prop
  | null (target : Target) : Returns .null (.nullable target) (.nullable target none)
  | plain {v : Value} {kind : PlainKind} {r : Reading} : GivesBack v r →
    Returns v (.plain kind) (.plain r)
  | nullable {v : Value} {target : Target} {r : Reading} : GivesBack v r →
    Returns v (.nullable target) (.nullable target (some r))

/-- Arguments, kinds and the cells that they must be scanned as, one for each. -/
def AllReturn (vs : List Value) (kinds : List Kind) (cells : List Cell) : Prop :=
  List.Forall₂ (fun asked cell => Returns asked.1 asked.2 cell) (vs.zip kinds) cells

variable {v : Value} {kind : Kind} {target : Target} {column : String}

theorem readInt_of_fits {n : Int} (h : -2 ^ 63 ≤ n ∧ n < 2 ^ 63) :
    Cell.readInt (.int n) column .int64 = .ok n :=
  Cell.readInt_eq_ok_iff.2 ⟨.int n, h⟩

theorem readTime_of_readInstant {s : List Char} {i : Instant} (h : readInstant s = .ok i) :
    Cell.readTime (.text (String.ofList s)) column = .ok i := by
  rw [Cell.readTime, String.toList_ofList, h]

theorem exists_givesBack {t : LocalTime} (h : t.InCalendar) :
    ∃ i, readInstant t.text = .ok i ∧ GivesBack (.datetime t) (.time i) := by
  obtain ⟨i, hread, hseconds, hmicro⟩ := h.exists_readInstant
  refine ⟨i, hread, ?_⟩
  obtain ⟨d, c, offset⟩ := t
  cases offset with
  | none =>
    rw [LocalTime.utcSeconds, Option.getD_none, Int.sub_zero] at hseconds
    obtain ⟨hdate, hclock⟩ := i.date_eq_clock_eq_of_seconds hseconds hmicro
    exact .naive hdate hclock
  | some o => exact .aware hseconds hmicro

theorem exists_read (column : String) (h : ComesBack v) (htarget : target? v = some target) :
    Cell.isNull (stored v) = false ∧
      ∃ r, Cell.read (stored v) column target = .ok r ∧ GivesBack v r := by
  cases v with
  | bool b =>
    cases htarget
    exact ⟨rfl, _, rfl, .bool b⟩
  | int n =>
    cases htarget
    refine ⟨rfl, .int n, ?_, .int n⟩
    simp only [stored, Cell.read, readInt_of_fits h]
    rfl
  | text s =>
    cases htarget
    exact ⟨rfl, _, rfl, .text s⟩
  | date d =>
    cases htarget
    obtain ⟨i, hread, hdate, hclock⟩ := readInstant_date d
    refine ⟨rfl, .time i, ?_, .date hdate hclock⟩
    rw [stored, Cell.read, readTime_of_readInstant hread]
    rfl
  | datetime t =>
    cases htarget
    obtain ⟨i, hread, hback⟩ := exists_givesBack h
    refine ⟨rfl, .time i, ?_, hback⟩
    rw [stored, Cell.read, readTime_of_readInstant hread]
    rfl
  | _ => cases htarget

/-- What is stored for an argument is converted to a kind that suits it, and gives it back. -/
theorem exists_convert (column : String) (h : ComesBack v) (hkind : Suits v kind) :
    ∃ cell, Cell.convert (stored v) column kind = .ok cell ∧ Returns v kind cell := by
  cases hkind with
  | null target => exact ⟨_, rfl, .null target⟩
  | plain htarget =>
    obtain ⟨hnull, r, hread, hback⟩ := exists_read column h htarget
    refine ⟨.plain r, ?_, .plain hback⟩
    rw [Cell.convert_plain hnull, hread]
    rfl
  | nullable htarget =>
    obtain ⟨hnull, r, hread, hback⟩ := exists_read column h htarget
    refine ⟨.nullable _ (some r), ?_, .nullable hback⟩
    rw [Cell.convert_nullable hnull, hread]
    rfl

end Statement

/-! ### Cursors -/

namespace Cursor

open Statement

/-- A cursor moved on by so many rows. -/
def advance : Nat → Cursor → Cursor
  | 0, c => c
  | k + 1, c => advance k c.next.2

theorem advance_eq {k : Nat} {c : Cursor} (h : c.advances + k ≤ c.table.rows.length) :
    (advance k c).table = c.table ∧ (advance k c).advances = c.advances + k := by
  induction k generalizing c with
  | zero => exact ⟨rfl, rfl⟩
  | succ k ih =>
    have hnext : c.next.2 = ⟨c.table, c.advances + 1, by omega⟩ := by
      rw [next, dif_pos (by omega)]
    have hrest := ih (c := c.next.2) (by rw [hnext]; dsimp only; omega)
    rw [hnext] at hrest
    rw [advance, hnext]
    exact ⟨hrest.1, by rw [hrest.2]; dsimp only; omega⟩

variable {vs : List Value} {kinds : List Kind}

theorem isKnown_of_suits (h : List.Forall₂ Suits vs kinds) : ∀ kind ∈ kinds, kind.isKnown := by
  induction h with
  | nil => exact List.forall_mem_nil _
  | cons hkind _ ih => exact List.forall_mem_cons.2 ⟨by cases hkind <;> rfl, ih⟩

theorem exists_convertAll {columns : List String} (h : List.Forall₂ Suits vs kinds)
    (hvs : ∀ v ∈ vs, ComesBack v) (hcolumns : columns.length = kinds.length) :
    ∃ cells, convertAll columns kinds (vs.map stored) = .ok cells ∧ AllReturn vs kinds cells := by
  induction h generalizing columns with
  | nil =>
    obtain rfl := List.eq_nil_of_length_eq_zero hcolumns
    exact ⟨[], rfl, .nil⟩
  | @cons v kind vs kinds hkind _ ih =>
    obtain ⟨column, columns, rfl⟩ := List.exists_cons_of_length_eq_add_one hcolumns
    rw [List.forall_mem_cons] at hvs
    obtain ⟨cell, hcell, hreturns⟩ := exists_convert column hvs.1 hkind
    obtain ⟨cells, hcells, hall⟩ := ih hvs.2 (Nat.succ.inj hcolumns)
    refine ⟨cell :: cells, ?_, .cons hreturns hall⟩
    simp only [convertAll, List.map_cons, List.head?_cons, Option.getD_some, List.tail_cons, hcell,
      hcells, bind, Except.bind, pure, Except.pure]

/-- A row of what is stored for arguments, scanned as kinds that suit them, gives them back. -/
theorem exists_scan {c : Cursor} (h : List.Forall₂ Suits vs kinds) (hvs : ∀ v ∈ vs, ComesBack v)
    (hcolumns : c.table.columns.length = kinds.length) (hrow : c.row .scan = .ok (vs.map stored)) :
    ∃ cells, c.scan kinds = .ok cells ∧ AllReturn vs kinds cells := by
  obtain ⟨cells, hcells, hall⟩ := exists_convertAll h hvs hcolumns
  refine ⟨cells, ?_, hall⟩
  rw [scan_of_standsOn (row_eq_ok.1 hrow) hcolumns.symm (isKnown_of_suits h), hcells]
  rfl

end Cursor

/-! ### Responses -/

namespace Response

open Outcome

/-- What surrounds a row in a response: the tables before and after its own, the columns, types and
time of that, and the rows above and below. All of it can be told of. -/
structure Surroundings where
  before : List Table
  after : List Table
  columns : List String
  types : List String
  timing : Double
  above : List (List Value)
  below : List (List Value)
  renderable : ∀ t ∈ before ++ after, (Outcome.rows t).IsRenderable 0
  finite : timing.isFinite
  cells : ∀ row ∈ above ++ below, ∀ cell ∈ row, IsCell cell

namespace Surroundings

variable (around : Surroundings) (row : List Value)

/-- The table around a row. -/
def table : Table :=
  ⟨around.columns, around.types, around.above ++ row :: around.below, around.timing⟩

/-- The tables of the response around a row. -/
def tables : List Table := around.before ++ around.table row :: around.after

/-- A cursor that was moved on to the row. -/
def cursor : Cursor := Cursor.advance (around.above.length + 1) (Cursor.ofTable (around.table row))

theorem isRenderable_of_mem {row : List Value} (hrow : ∀ cell ∈ row, IsCell cell) :
    ∀ t ∈ around.tables row, (Outcome.rows t).IsRenderable 0 := by
  intro t ht
  rw [tables, List.mem_append, List.mem_cons] at ht
  obtain ht | rfl | ht := ht
  · exact around.renderable t (List.mem_append_left _ ht)
  · refine ⟨around.finite, fun r hr => ?_⟩
    rw [table, List.mem_append, List.mem_cons] at hr
    obtain hr | rfl | hr := hr
    · exact around.cells r (List.mem_append_left _ hr)
    · exact hrow
    · exact around.cells r (List.mem_append_right _ hr)
  · exact around.renderable t (List.mem_append_right _ ht)

theorem table_cursor : (around.cursor row).table = around.table row :=
  (Cursor.advance_eq (by simp [Cursor.ofTable, table])).1

theorem row_cursor : (around.cursor row).row .scan = .ok row := by
  have hadvances : (around.cursor row).advances = around.above.length + 1 := by
    rw [cursor, (Cursor.advance_eq (by simp [Cursor.ofTable, table])).2]
    exact Nat.zero_add _
  rw [Cursor.row, hadvances]
  simp only [table_cursor, table, List.getElem?_append_right (Nat.le_refl _), Nat.sub_self,
    List.getElem?_cons_zero]

end Surroundings

end Response

/-! ### Arguments -/

namespace Statement

open Outcome Response

variable {op : Operation} {batch : List Statement}

theorem isArgument_of_isCell {v : Value} (h : IsCell (stored v)) : IsArgument v := by
  cases v with
  | null | bool | int | float | text | date | datetime => exact trivial
  | _ => cases h

theorem isWritable_of_fits {n : Int} (h : -2 ^ 63 ≤ n ∧ n < 2 ^ 63) : Numeral.isWritable n := by
  have hdigits : n.natAbs < 10 ^ 20 := by
    obtain ⟨hlow, hhigh⟩ := h
    omega
  have hlimit : 20 ≤ Numeral.digitLimit := by decide
  rw [Numeral.isWritable]
  -- the power is too large to be evaluated
  generalize Numeral.digitLimit = k at hlimit ⊢
  exact decide_eq_true (hdigits.trans_le (Nat.pow_le_pow_right (by decide) hlimit))

theorem isCell_of_comesBack {v : Value} (h : ComesBack v) : IsCell (stored v) := by
  cases v with
  | null | bool | text | date | datetime => exact trivial
  | int n => exact isWritable_of_fits h
  | _ => cases h

theorem exists_write_array {s : Statement} (h : ∀ v ∈ s.arguments, IsCell (stored v)) :
    ∃ t, Json.write s.array = .ok t := by
  refine Json.exists_write_list fun v hv => ?_
  obtain rfl | rfl | ⟨a, ha, rfl⟩ := eq_of_mem_array hv
  · exact ⟨_, rfl⟩
  · exact ⟨_, rfl⟩
  · exact exists_write_of_isCell (h a ha)

/-- A batch is accepted if its statements are allowed and hold what cells may hold. -/
theorem exists_encodeBatch (hop : op.takesStatements)
    (hreturning : ∀ s ∈ batch, s.returning → op = .request)
    (hcells : ∀ s ∈ batch, ∀ v ∈ s.arguments, IsCell (stored v)) :
    ∃ body, encodeBatch op batch = .ok body := by
  obtain ⟨body, hwrite⟩ : ∃ body, Json.write (.list (batch.map array)) = .ok body := by
    refine Json.exists_write_list fun v hv => ?_
    obtain ⟨s, hs, rfl⟩ := List.mem_map.1 hv
    exact exists_write_array (hcells s hs)
  exact ⟨body, encodeBatch_eq_ok.2 ⟨hop,
    fun s hs => ⟨hreturning s hs, fun v hv => isArgument_of_isCell (hcells s hs v hv)⟩, hwrite⟩⟩

/-- What a body holds for arguments comes back from a response to an operation: the response is
decoded to the tables that it tells of, and the row scanned as kinds gives the arguments. -/
structure IsGivenBack (reply : Operation) (around : Surroundings) (row vs : List Value)
    (kinds : List Kind) : Prop where
  decodes : ∃ text, Json.write (rendered ((around.tables row).map .rows)) = .ok text ∧
    decode (Utf8.encode text) reply (some (around.tables row).length) =
      .ok ((around.tables row).map .rows)
  scans : ∃ cells, (around.cursor row).scan kinds = .ok cells ∧ AllReturn vs kinds cells

/-- A batch is written with one array for each statement. What stands there for the arguments of a
statement may be put as a row into any response: where the arguments are such that they come back,
they do, each as the kind that is asked for. -/
theorem scan_of_encodeBatch {reply : Operation} (hop : op.takesStatements)
    (hreturning : ∀ s ∈ batch, s.returning → op = .request)
    (hcells : ∀ s ∈ batch, ∀ v ∈ s.arguments, IsCell (stored v)) (hreply : reply ≠ .write) :
    ∃ body arrays, encodeBatch op batch = .ok body ∧
      Json.read (Utf8.encode body) = .ok (.list arrays) ∧ arrays.length = batch.length ∧
      ∀ (n : Nat) (s : Statement), batch[n]? = some s → (∀ v ∈ s.arguments, ComesBack v) →
        ∃ row, arrays[n]? = some (.list (s.front ++ row)) ∧
          ∀ (kinds : List Kind) (around : Surroundings), List.Forall₂ Suits s.arguments kinds →
            around.columns.length = kinds.length →
            IsGivenBack reply around row s.arguments kinds := by
  obtain ⟨body, hbody⟩ := exists_encodeBatch hop hreturning hcells
  refine ⟨body, batch.map array, hbody, read_of_encodeBatch hbody, List.length_map .., ?_⟩
  intro n s hs hback
  refine ⟨s.arguments.map stored, by rw [List.getElem?_map, hs]; rfl, ?_⟩
  intro kinds around hkinds hcolumns
  have hrow : ∀ cell ∈ s.arguments.map stored, IsCell cell := by
    intro cell hcell
    obtain ⟨v, hv, rfl⟩ := List.mem_map.1 hcell
    exact isCell_of_comesBack (hback v hv)
  exact {
    decodes := decode_tables hreply (around.isRenderable_of_mem hrow)
    scans := by
      refine Cursor.exists_scan hkinds hback ?_ (around.row_cursor _)
      rw [around.table_cursor]
      exact hcolumns }

/-- A batch with arguments of all kinds that come back, among them the least integer of 64 bits, the
last instant of the calendar and a local time whose instant falls into the next year. -/
def everyKind : List Statement := [
  ⟨"SELECT ?", [.float (.zero true)], false⟩,
  ⟨"INSERT", [.null, .bool true, .int (-9223372036854775808), .text "\"é😀",
    .date ⟨2000, 2, 29, by decide⟩,
    .datetime ⟨⟨9999, 12, 31, by decide⟩, ⟨23, 59, 59, 999999, by decide⟩, none⟩,
    .datetime ⟨⟨2023, 12, 31, by decide⟩, ⟨23, 30, 15, 120, by decide⟩, some (-3661)⟩], true⟩]

/-- A response with a row above and a row below, and an empty table before. -/
def crowded : Surroundings where
  before := [⟨[], [], [], .zero false⟩]
  after := []
  columns := ["a", "b", "c", "d", "e", "f", "g"]
  types := ["timestamp"]
  timing := .zero false
  above := [[.null, .float (.zero true)]]
  below := [[]]
  renderable := by decide
  finite := by decide
  cells := by decide

theorem scan_of_encodeBatch_everyKind :
    ∃ body arrays row, encodeBatch .request everyKind = .ok body ∧
      Json.read (Utf8.encode body) = .ok (.list arrays) ∧
      arrays[1]? = some (.list ([.bool true, .text "INSERT"] ++ row)) ∧
      IsGivenBack .query crowded row (everyKind[1]).arguments
        [.nullable .bytes, .plain .bool, .plain .int, .nullable .text, .plain .time,
          .nullable .time, .plain .time] := by
  obtain ⟨body, arrays, hbody, hread, -, hback⟩ :=
    @scan_of_encodeBatch .request everyKind .query rfl (by decide) (by decide +kernel) (by decide)
  have hlast : LocalTime.InCalendar
      ⟨⟨9999, 12, 31, by decide⟩, ⟨23, 59, 59, 999999, by decide⟩, none⟩ :=
    ⟨by simp, by decide, by decide⟩
  have hahead : LocalTime.InCalendar
      ⟨⟨2023, 12, 31, by decide⟩, ⟨23, 30, 15, 120, by decide⟩, some (-3661)⟩ :=
    ⟨by simp, by decide, by decide⟩
  have harguments : ∀ v ∈ everyKind[1].arguments, ComesBack v := by
    simp only [everyKind, List.getElem_cons_succ, List.getElem_cons_zero, List.forall_mem_cons]
    exact ⟨trivial, trivial, ⟨by decide, by decide⟩, trivial, trivial, hlast, hahead, by simp⟩
  obtain ⟨row, hrow, hkinds⟩ := hback 1 everyKind[1] rfl harguments
  refine ⟨body, arrays, row, hbody, hread, hrow, hkinds _ crowded ?_ rfl⟩
  exact .cons (.null _) (.cons (.plain rfl) (.cons (.plain rfl) (.cons (.nullable rfl)
    (.cons (.plain rfl) (.cons (.nullable rfl) (.cons (.plain rfl) .nil))))))

end Statement

end SqlCluster
