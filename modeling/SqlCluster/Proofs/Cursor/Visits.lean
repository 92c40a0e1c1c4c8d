import SqlCluster.Proofs.Cursor.Slots

/-!
Visits of rows. Whatever is done with a cursor, it moves only where it is told to go to the next row
or walks through the rows, and then by one row at a time, so its place follows from the number of
its advances (`Cursor.reached`). Every row is visited once and in order, however the readers are
mixed (`Cursor.visits_of_perform`).
-/

namespace SqlCluster

/-- A cause that lies in the place of a cursor or in the number of kinds, and not in a cell. -/
def CursorError.IsState : CursorError → Prop
  | cell _ => False
  | beforeFirst _ | behindLast _ | kindCount _ _ => True

namespace Cursor

/-! ### Steps -/

/-- What a cursor is told to do. A walk through the rows may be given up after so many. -/
inductive Step where
  | next
  | raw
  | map
  | scan (kinds : List Kind)
  | rows (take : Option Nat)
  | info

/-- What a cursor answers to a step. -/
inductive Answer where
  | moved (there : Bool)
  | raw (r : Except CursorError (List Value))
  | map (r : Except CursorError (Dict Cell))
  | scan (r : Except CursorError (List Cell))
  | rows (r : Except CursorError (List (Dict Cell)))
  | info (table : Table) (shown : String)

/-- A step reads without telling the cursor to move. -/
def Step.Reads : Step → Prop
  | next | rows _ => False
  | raw | map | scan _ | info => True

/-- What a cursor answers to a step, and the cursor after it. -/
def step (c : Cursor) : Step → Answer × Cursor
  | .next => (.moved c.next.1, c.next.2)
  | .raw => (.raw c.raw, c)
  | .map => (.map c.map, c)
  | .scan kinds => (.scan (c.scan kinds), c)
  | .rows take => (.rows (c.rows take).1, (c.rows take).2)
  | .info => (.info c.table c.shown, c)

/-- The answers to steps one after the other, whether they fail or not, and the cursor after
them. -/
def perform (c : Cursor) : List Step → List Answer × Cursor
  | [] => ([], c)
  | s :: ss => ((c.step s).1 :: (perform (c.step s).2 ss).1, (perform (c.step s).2 ss).2)

/-! ### Advances -/

/-- An advance: whether it came to a row, and the cursor after it. -/
abbrev Advance := Bool × Cursor

/-- A walk through the rows, with its advances. It goes to the next row and reads that as a
dictionary, again and again, until it has read so many rows, or there is none, or one cannot be
read. -/
inductive Walks : (limit : Option Nat) → Cursor → List Advance →
    Except CursorError (List (Dict Cell)) → Cursor → Prop
  | enough {c : Cursor} : Walks (some 0) c [] (.ok []) c
  | ended {limit : Option Nat} {c c' : Cursor} : limit ≠ some 0 → c.next = (false, c') →
    Walks limit c [(false, c')] (.ok []) c'
  | failed {limit : Option Nat} {c c' : Cursor} {e : CursorError} : limit ≠ some 0 →
    c.next = (true, c') → c'.map = .error e → Walks limit c [(true, c')] (.error e) c'
  | read {limit : Option Nat} {c c' c'' : Cursor} {d : Dict Cell} {as : List Advance}
    {r : Except CursorError (List (Dict Cell))} : limit ≠ some 0 → c.next = (true, c') →
    c'.map = .ok d → Walks (limit.map (· - 1)) c' as r c'' →
    Walks limit c ((true, c') :: as) (r.map (d :: ·)) c''

/-- A step of a cursor, with its advances. -/
inductive Takes (c : Cursor) : Step → Answer → List Advance → Cursor → Prop
  | next : Takes c .next (.moved c.next.1) [c.next] c.next.2
  | raw : Takes c .raw (.raw c.raw) [] c
  | map : Takes c .map (.map c.map) [] c
  | scan (kinds : List Kind) : Takes c (.scan kinds) (.scan (c.scan kinds)) [] c
  | rows {take : Option Nat} {as : List Advance} {r : Except CursorError (List (Dict Cell))}
    {c' : Cursor} : Walks take c as r c' → Takes c (.rows take) (.rows r) as c'
  | info : Takes c .info (.info c.table c.shown) [] c

/-- A run of steps, with its advances. -/
inductive Runs : Cursor → List Step → List Answer → List Advance → Cursor → Prop
  | nil {c : Cursor} : Runs c [] [] [] c
  | cons {c c' c'' : Cursor} {s : Step} {ss : List Step} {a : Answer} {answers : List Answer}
    {as bs : List Advance} : Takes c s a as c' → Runs c' ss answers bs c'' →
    Runs c (s :: ss) (a :: answers) (as ++ bs) c''

variable {c c' : Cursor} {t : Table} {k : Nat} {as bs : List Advance}

theorem next_eq (c : Cursor) : c.next.1 = decide (c.advances < c.table.rows.length) ∧
    c.next.2.table = c.table ∧
      c.next.2.advances = min (c.advances + 1) (c.table.rows.length + 1) := by
  rw [next]
  split
  next h => exact ⟨(decide_eq_true h).symm, rfl, by dsimp only; omega⟩
  next h => exact ⟨(decide_eq_false h).symm, rfl, by dsimp only; omega⟩

/-- The loop that counts its rows is a walk, also where it counts one more than there are left. The
induction is on that count. -/
theorem walks_walk {limit : Option Nat} {count : Nat} (h : limit = some count ∨
      limit = none ∧ c.table.rows.length - c.advances < count) :
    ∃ as, Walks limit c as (walk count c).1 (walk count c).2 := by
  induction count generalizing limit c with
  | zero =>
    obtain rfl | ⟨-, hrest⟩ := h
    · exact ⟨[], .enough⟩
    · cases hrest
  | succ count ih =>
    have hlimit : limit ≠ some 0 := by
      obtain rfl | ⟨rfl, -⟩ := h <;> simp
    obtain ⟨hthere, htable, hadvances⟩ := c.next_eq
    rw [walk]
    rcases hnext : c.next with ⟨_ | _, c'⟩
    · exact ⟨_, .ended hlimit hnext⟩
    · rw [hnext] at hthere htable hadvances
      dsimp only at hthere htable hadvances ⊢
      cases hmap : c'.map with
      | error e => exact ⟨_, .failed hlimit hnext hmap⟩
      | ok d =>
        have hrest : limit.map (· - 1) = some count ∨
            limit.map (· - 1) = none ∧ c'.table.rows.length - c'.advances < count := by
          have hrow := of_decide_eq_true hthere.symm
          obtain rfl | ⟨rfl, hrest⟩ := h
          · exact .inl rfl
          · refine .inr ⟨rfl, ?_⟩
            rw [htable, hadvances]
            omega
        obtain ⟨as, has⟩ := ih hrest
        refine ⟨(true, c') :: as, ?_⟩
        have hread := Walks.read hlimit hnext hmap has
        dsimp only
        rcases hwalk : walk count c' with ⟨_ | _, _⟩ <;> rw [hwalk] at hread <;> exact hread

theorem exists_walks (c : Cursor) (take : Option Nat) :
    ∃ as, Walks take c as (c.rows take).1 (c.rows take).2 := by
  refine walks_walk ?_
  cases take with
  | none => exact .inr ⟨rfl, by rw [Option.getD_none]; omega⟩
  | some l => exact .inl rfl

theorem exists_takes (c : Cursor) (s : Step) : ∃ as, Takes c s (c.step s).1 as (c.step s).2 := by
  cases s with
  | next => exact ⟨_, .next⟩
  | raw => exact ⟨_, .raw⟩
  | map => exact ⟨_, .map⟩
  | scan kinds => exact ⟨_, .scan kinds⟩
  | info => exact ⟨_, .info⟩
  | rows take =>
    obtain ⟨as, has⟩ := c.exists_walks take
    exact ⟨as, .rows has⟩

theorem exists_runs (c : Cursor) (ss : List Step) :
    ∃ as, Runs c ss (c.perform ss).1 as (c.perform ss).2 := by
  induction ss generalizing c with
  | nil => exact ⟨[], .nil⟩
  | cons s ss ih =>
    obtain ⟨as, has⟩ := c.exists_takes s
    obtain ⟨bs, hbs⟩ := ih (c.step s).2
    exact ⟨as ++ bs, .cons has hbs⟩

/-- Advances that a cursor makes one after the other. -/
inductive Advances : Cursor → List Advance → Cursor → Prop
  | nil {c : Cursor} : Advances c [] c
  | cons {c c' : Cursor} {as : List Advance} :
    Advances c.next.2 as c' → Advances c (c.next :: as) c'

theorem Advances.append {c'' : Cursor} (h : Advances c as c') (h' : Advances c' bs c'') :
    Advances c (as ++ bs) c'' := by
  induction h with
  | nil => exact h'
  | cons _ ih => exact .cons (ih h')

theorem Walks.advances {limit : Option Nat} {r : Except CursorError (List (Dict Cell))}
    (h : Walks limit c as r c') : Advances c as c' := by
  induction h with
  | enough => exact .nil
  | ended _ hnext | failed _ hnext _ => exact hnext ▸ .cons (by rw [hnext]; exact .nil)
  | read _ hnext _ _ ih => exact hnext ▸ .cons (by rwa [hnext])

theorem Takes.advances {s : Step} {a : Answer} (h : Takes c s a as c') : Advances c as c' := by
  cases h with
  | next => exact .cons .nil
  | raw | map | scan | info => exact .nil
  | rows h => exact h.advances

theorem Runs.advances {ss : List Step} {answers : List Answer} (h : Runs c ss answers as c') :
    Advances c as c' := by
  induction h with
  | nil => exact .nil
  | cons h _ ih => exact h.advances.append ih

/-! ### Places -/

/-- The cursor of a table after so many advances; behind the last row it stays where it is. -/
def reached (t : Table) (k : Nat) : Cursor :=
  ⟨t, min k (t.rows.length + 1), Nat.min_le_right _ _⟩

/-- The row number after so many advances: the first of them comes to row zero. -/
def placeAfter (t : Table) (k : Nat) : Int :=
  if k ≤ t.rows.length then (k : Int) - 1 else t.rows.length

theorem eq_of_advances (ht : c.table = c'.table) (hk : c.advances = c'.advances) : c = c' := by
  cases c
  cases c'
  cases ht
  cases hk
  rfl

theorem eq_reached (c : Cursor) : c = reached c.table c.advances :=
  eq_of_advances rfl (Nat.min_eq_left c.advances_le).symm

theorem next_reached (t : Table) (k : Nat) :
    (reached t k).next = (decide (k < t.rows.length), reached t (k + 1)) := by
  obtain ⟨hthere, htable, hadvances⟩ := (reached t k).next_eq
  refine Prod.ext (hthere.trans (decide_eq_decide.2 ?_)) (eq_of_advances htable ?_)
  · simp only [reached]
    omega
  · rw [hadvances]
    simp only [reached]
    omega

theorem rowNumber_reached (t : Table) (k : Nat) : (reached t k).rowNumber = placeAfter t k := by
  simp only [rowNumber, reached, placeAfter]
  split <;> omega

theorem standsOn_reached {row : List Value} :
    (reached t (k + 1)).StandsOn row ↔ t.rows[k]? = some row := by
  by_cases h : k < t.rows.length
  · have hk : min (k + 1) (t.rows.length + 1) = k + 1 := by omega
    simp only [StandsOn, reached, hk]
    simp
  · have hk : min (k + 1) (t.rows.length + 1) = t.rows.length + 1 := by omega
    simp only [StandsOn, reached, hk]
    simp [Nat.le_of_not_lt h]

/-- So many advances of a cursor, from the one after its first `k` on. -/
def advancesFrom (t : Table) (k count : Nat) : List Advance :=
  (List.range' k count).map fun j => (decide (j < t.rows.length), reached t (j + 1))

/-- The rows that advances came to. -/
def visited (as : List Advance) : List (List Value) :=
  as.filterMap fun a => if a.1 then a.2.raw.toOption else none

theorem advancesFrom_succ (t : Table) (k count : Nat) : advancesFrom t k (count + 1) =
    (decide (k < t.rows.length), reached t (k + 1)) :: advancesFrom t (k + 1) count := by
  rw [advancesFrom, List.range'_succ]
  rfl

theorem Advances.eq (h : Advances (reached t k) as c') :
    as = advancesFrom t k as.length ∧ c' = reached t (k + as.length) := by
  generalize hc : reached t k = c at h
  induction h generalizing k with
  | nil => exact ⟨rfl, hc.symm⟩
  | cons h ih =>
    subst hc
    rw [next_reached] at ih ⊢
    obtain ⟨has, hlast⟩ := ih rfl
    rw [List.length_cons, advancesFrom_succ, ← has]
    exact ⟨rfl, by rw [hlast, Nat.add_right_comm, Nat.add_assoc]⟩

theorem visited_advancesFrom (t : Table) (k count : Nat) :
    visited (advancesFrom t k count) = (t.rows.drop k).take count := by
  induction count generalizing k with
  | zero => rfl
  | succ count ih =>
    simp only [visited] at ih ⊢
    rw [advancesFrom_succ, List.filterMap_cons, ih]
    by_cases h : k < t.rows.length
    · have hraw : (reached t (k + 1)).raw = .ok t.rows[k] :=
        row_eq_ok.2 (standsOn_reached.2 (List.getElem?_eq_getElem h))
      rw [decide_eq_true h, hraw, List.drop_eq_getElem_cons h]
      rfl
    · have hdrop : t.rows.drop k = [] := List.drop_eq_nil_of_le (Nat.le_of_not_lt h)
      rw [decide_eq_false h, hdrop, List.drop_eq_nil_of_le (by omega)]
      simp

/-- A walk fails at the first row that cannot be read, if it comes so far. -/
theorem Walks.eq_error_iff {limit : Option Nat} {r : Except CursorError (List (Dict Cell))}
    {e : CursorError} (h : Walks limit (reached t k) as r c') : r = .error e ↔
      ∃ j, (∀ l ∈ limit, j < l) ∧ k + j < t.rows.length ∧
        (∀ i < j, ∃ d, (reached t (k + i + 1)).map = .ok d) ∧
        (reached t (k + j + 1)).map = .error e := by
  generalize hc : reached t k = c at h
  induction h generalizing k with
  | enough => simp
  | ended _ hnext =>
    rw [← hc, next_reached, Prod.mk.injEq, decide_eq_false_iff_not] at hnext
    refine iff_of_false nofun ?_
    rintro ⟨j, -, hj, -⟩
    omega
  | failed hlimit hnext hmap =>
    rw [← hc, next_reached, Prod.mk.injEq, decide_eq_true_eq] at hnext
    obtain ⟨hrow, rfl⟩ := hnext
    constructor
    · rintro ⟨⟩
      refine ⟨0, fun l hl => Nat.pos_of_ne_zero ?_, hrow, nofun, hmap⟩
      rintro rfl
      exact hlimit hl
    · rintro ⟨j, -, -, hread, he⟩
      cases j with
      | zero =>
        cases hmap.symm.trans he
        rfl
      | succ j =>
        obtain ⟨d, hd⟩ := hread 0 (Nat.succ_pos j)
        rw [hmap] at hd
        cases hd
  | read hlimit hnext hmap _ ih =>
    rw [← hc, next_reached, Prod.mk.injEq, decide_eq_true_eq] at hnext
    obtain ⟨hrow, rfl⟩ := hnext
    -- the rows behind the first are counted from the next place on
    have hplace (i : Nat) : k + 1 + i + 1 = k + (i + 1) + 1 := by omega
    simp only [map_eq_error, ih rfl, hplace]
    constructor
    · rintro ⟨j, hj, hend, hread, he⟩
      refine ⟨j + 1, fun l hl => ?_, by omega, fun i hi => ?_, he⟩
      · have hpos : l ≠ 0 := fun hl0 => hlimit (hl0 ▸ hl)
        have hless := hj (l - 1) (Option.mem_map_of_mem _ hl)
        omega
      · cases i with
        | zero => exact ⟨_, hmap⟩
        | succ i => exact hread i (Nat.lt_of_succ_lt_succ hi)
    · rintro ⟨j, hj, hend, hread, he⟩
      cases j with
      | zero =>
        rw [hmap] at he
        cases he
      | succ j =>
        refine ⟨j, fun l hl => ?_, by omega, fun i hi => hread (i + 1) (Nat.succ_lt_succ hi), he⟩
        obtain ⟨l', hl', rfl⟩ := Option.map_eq_some_iff.1 hl
        have hless := hj l' hl'
        omega

theorem rows_eq_error_iff {take : Option Nat} {e : CursorError} : (c.rows take).1 = .error e ↔
    ∃ j, (∀ l ∈ take, j < l) ∧ c.advances + j < c.table.rows.length ∧
      (∀ i < j, ∃ d, (reached c.table (c.advances + i + 1)).map = .ok d) ∧
      (reached c.table (c.advances + j + 1)).map = .error e := by
  obtain ⟨as, has⟩ := c.exists_walks take
  have hwalks : Walks take (reached c.table c.advances) as (c.rows take).1 (c.rows take).2 := by
    rw [← c.eq_reached]
    exact has
  exact hwalks.eq_error_iff

/-! ### Runs -/

/-- What advances of a cursor that began before the first row have come to. The place of the cursor
is that after so many advances; the `j`-th of them reports a row as long as there is one; and the
rows that they came to are those of the table, in order and once each. -/
structure Visits (t : Table) (as : List Advance) (c : Cursor) : Prop where
  table : c.table = t
  place : c.rowNumber = placeAfter t as.length
  reports : ∀ j (h : j < as.length), as[j].1 = decide (j + 1 ≤ t.rows.length) ∧
    as[j].2.table = t ∧ as[j].2.rowNumber = placeAfter t (j + 1)
  rows : visited as = t.rows.take as.length

theorem Advances.visits (h : Advances (ofTable t) as c) : Visits t as c := by
  have hstart : ofTable t = reached t 0 := eq_of_advances rfl (Nat.zero_min _).symm
  rw [hstart] at h
  obtain ⟨has, hc⟩ := h.eq
  rw [Nat.zero_add] at hc
  refine ⟨by rw [hc]; rfl, by rw [hc, rowNumber_reached], fun j hj => ?_, ?_⟩
  · have hj' : as[j] = (decide (j < t.rows.length), reached t (j + 1)) := by
      have hget : as[j]? = (advancesFrom t 0 as.length)[j]? := by rw [← has]
      rw [List.getElem?_eq_getElem hj] at hget
      simpa [advancesFrom, hj] using hget
    rw [hj']
    exact ⟨rfl, rfl, rowNumber_reached t (j + 1)⟩
  · rw [has, visited_advancesFrom, List.drop_zero, ← has]

/-- A cursor before the first row or behind the last. -/
def IsOff (c : Cursor) : Prop := c.rowNumber = -1 ∨ c.rowNumber = c.table.rows.length

/-- What holds of a cursor wherever it is: its row number is in range and no step takes it back or
changes the table; what reads does not move it, and answers the same again; and a row, as it is or
as a dictionary or scanned as one kind for each column, is refused for the state of the cursor
exactly if that is not on a row. -/
structure IsOrderly (c : Cursor) : Prop where
  range : -1 ≤ c.rowNumber ∧ c.rowNumber ≤ c.table.rows.length
  forward : ∀ s, (c.step s).2.table = c.table ∧ c.rowNumber ≤ (c.step s).2.rowNumber
  still : ∀ s : Step, s.Reads → (c.step s).2 = c ∧ ((c.step s).2.step s).1 = (c.step s).1
  raw : (∃ e, c.raw = .error e ∧ e.IsState) ↔ c.IsOff
  map : (∃ e, c.map = .error e ∧ e.IsState) ↔ c.IsOff
  scan : ∀ kinds, kinds.length = c.table.columns.length →
    ((∃ e, c.scan kinds = .error e ∧ e.IsState) ↔ c.IsOff)

theorem placeAfter_mono (t : Table) {k l : Nat} (h : k ≤ l) : placeAfter t k ≤ placeAfter t l := by
  simp only [placeAfter]
  split <;> split <;> omega

theorem isOff_or_standsOn (c : Cursor) (reader : RowReader) :
    (c.IsOff ∧ ∃ e, c.row reader = .error e ∧ e.IsState) ∨ ¬ c.IsOff ∧ ∃ row, c.StandsOn row := by
  have hle := c.advances_le
  rw [IsOff, rowNumber, row]
  cases hk : c.advances with
  | zero => exact .inl ⟨.inl rfl, _, rfl, trivial⟩
  | succ k =>
    cases hrow : c.table.rows[k]? with
    | none =>
      have hlength := List.getElem?_eq_none_iff.1 hrow
      exact .inl ⟨.inr (by omega), .behindLast reader, by simp only [hrow], trivial⟩
    | some row =>
      obtain ⟨hlength, -⟩ := List.getElem?_eq_some_iff.1 hrow
      exact .inr ⟨by omega, row, k, hk, hrow⟩

theorem not_isState_of_map {row : List Value} (h : c.StandsOn row) {e : CursorError}
    (he : c.map = .error e) : ¬ e.IsState := by
  rw [map_of_standsOn h] at he
  cases hcells : guessAll c.table.columns c.table.types row with
  | error cause =>
    rw [hcells] at he
    cases he
    exact id
  | ok cells =>
    rw [hcells] at he
    cases he

theorem not_isState_of_scan {row : List Value} (h : c.StandsOn row) {kinds : List Kind}
    (hcount : kinds.length = c.table.columns.length) {e : CursorError}
    (he : c.scan kinds = .error e) : ¬ e.IsState := by
  rw [Cursor.scan, if_neg (not_not.2 hcount), row_eq_ok.2 h] at he
  simp only [bind, Except.bind] at he
  split at he
  · cases he
    exact id
  · split at he <;> cases he
    exact id

theorem isOrderly (c : Cursor) : c.IsOrderly where
  range := by
    have hle := c.advances_le
    rw [rowNumber]
    omega
  forward s := by
    obtain ⟨as, has⟩ := c.exists_takes s
    have hadvances : Advances (reached c.table c.advances) as (c.step s).2 := by
      rw [← c.eq_reached]
      exact has.advances
    have hplace : c.rowNumber = placeAfter c.table c.advances := by
      conv_lhs => rw [c.eq_reached, rowNumber_reached]
    rw [hadvances.eq.2, rowNumber_reached, hplace]
    exact ⟨rfl, placeAfter_mono _ (Nat.le_add_right _ _)⟩
  still s hs := by
    cases s with
    | raw | map | scan | info => exact ⟨rfl, rfl⟩
    | next | rows => cases hs
  raw := by
    obtain ⟨hoff, herror⟩ | ⟨hon, row, hrow⟩ := c.isOff_or_standsOn .raw
    · exact iff_of_true herror hoff
    · refine iff_of_false ?_ hon
      rw [Cursor.raw, row_eq_ok.2 hrow]
      simp
  map := by
    obtain ⟨hoff, e, he, hstate⟩ | ⟨hon, row, hrow⟩ := c.isOff_or_standsOn .map
    · exact iff_of_true ⟨e, by rw [Cursor.map, he]; rfl, hstate⟩ hoff
    · refine iff_of_false ?_ hon
      rintro ⟨e, he, hstate⟩
      exact not_isState_of_map hrow he hstate
  scan kinds hcount := by
    obtain ⟨hoff, e, he, hstate⟩ | ⟨hon, row, hrow⟩ := c.isOff_or_standsOn .scan
    · exact iff_of_true ⟨e, by rw [Cursor.scan, if_neg (not_not.2 hcount), he]; rfl, hstate⟩ hoff
    · refine iff_of_false ?_ hon
      rintro ⟨e, he, hstate⟩
      exact not_isState_of_scan hrow hcount he hstate

/-- Whatever is done with a cursor on a table, its advances visit the rows of the table, and
wherever it is it is orderly. -/
theorem visits_of_perform (t : Table) (ss : List Step) :
    ∃ as, Runs (ofTable t) ss ((ofTable t).perform ss).1 as ((ofTable t).perform ss).2 ∧
      Visits t as ((ofTable t).perform ss).2 ∧ ((ofTable t).perform ss).2.IsOrderly := by
  obtain ⟨as, has⟩ := (ofTable t).exists_runs ss
  exact ⟨as, has, has.advances.visits, isOrderly _⟩

end Cursor

end SqlCluster
