import SqlCluster.Proofs.Cursor.Slots
import SqlCluster.Proofs.Dict

/-!
Dictionaries and scans agree. The declared types of a table suggest a kind for each of its columns:
a time that may be null for the name of a date or time, and the value itself for any other. Reading
a row as a dictionary and scanning it as the kinds that are suggested come to the same
(`Cursor.map_agrees_scan`): both fail at the first slot that cannot be read, or the dictionary lists
the cells that were scanned.
-/

namespace SqlCluster

/-! ### Suggested kinds -/

/-- Whether the name of a type speaks of dates or times, whatever the case of its letters. -/
def NamesTime (declared : String) : Prop :=
  "date".toList <:+: Text.lower declared.toList ∨ "time".toList <:+: Text.lower declared.toList

theorem Cursor.holdsWord_iff {w s : List Char} : holdsWord w s ↔ w <:+: s := by
  induction s with
  | nil => rw [holdsWord, List.isEmpty_iff, List.infix_nil]
  | cons c s ih =>
    rw [holdsWord, Bool.or_eq_true, List.isPrefixOf_iff_prefix, ih, List.infix_cons_iff]

theorem Cursor.declaresTime_iff {declared : String} :
    declaresTime declared ↔ NamesTime declared := by
  rw [declaresTime, Bool.or_eq_true, holdsWord_iff, holdsWord_iff, NamesTime]

instance : DecidablePred NamesTime := fun _ => decidable_of_iff _ Cursor.declaresTime_iff

/-- The kind that a declared type suggests. -/
def suggestedKind : Option String → Kind
  | some declared => if NamesTime declared then .nullable .time else .raw
  | none => .raw

/-- The kinds that the declared types of a table suggest, one for each column. -/
def Table.suggestedKinds (t : Table) : List Kind :=
  t.columns.mapIdx fun i _ => suggestedKind t.types[i]?

/-- A cell of a nullable kind as a value that may be null, and any other as it is. -/
def Cell.bare : Cell → Cell
  | .nullable _ none => .raw .null
  | .nullable _ (some r) => .plain r
  | cell => cell

/-- A slot that is declared to hold a date or time, and holds something that cannot be read as
one. -/
structure Slot.Fails (s : Slot) (cause : ScanError) : Prop where
  named : ∃ declared ∈ s.declared, NamesTime declared
  present : Cell.isNull s.value = false
  unread : Cell.readTime s.value s.column = .error cause

theorem map_suggestedKind_slots (t : Table) (row : List Value) :
    (t.slots row).map (fun s => suggestedKind s.declared) = t.suggestedKinds :=
  List.ext_getElem (by simp [Table.slots, slotsOf, Table.suggestedKinds])
    (by simp [Table.slots, slotsOf, Table.suggestedKinds])

theorem isKnown_suggestedKind (declared : Option String) : (suggestedKind declared).isKnown := by
  cases declared with
  | none => rfl
  | some declared =>
    rw [suggestedKind]
    split <;> rfl

namespace Cursor

variable {s : Slot} {cause : ScanError}

/-- What a slot is guessed to be is what it is as the kind that is suggested for it. -/
theorem guess_eq_convert (s : Slot) : guess s.column s.declared s.value =
    (Cell.convert s.value s.column (suggestedKind s.declared)).map Cell.bare := by
  obtain ⟨column, declared, v⟩ := s
  cases declared with
  | none => rw [guess, Option.any_none, Bool.and_false, if_neg (by simp)]; rfl
  | some declared =>
    rw [guess, Option.any_some, suggestedKind]
    by_cases hname : NamesTime declared
    · rw [declaresTime_iff.2 hname, if_pos hname, Bool.and_true, Cell.convert]
      cases hnull : Cell.isNull v with
      | true =>
        cases v with
        | null => rfl
        | _ => cases hnull
      | false =>
        rw [Cell.read]
        cases Cell.readTime v column <;> rfl
    · rw [Bool.eq_false_iff.2 fun h => hname (declaresTime_iff.1 h), if_neg hname]
      simp [Cell.convert, Except.map, Cell.bare]

theorem convert_eq_error : Cell.convert s.value s.column (suggestedKind s.declared) = .error cause ↔
    s.Fails cause := by
  obtain ⟨column, declared, v⟩ := s
  constructor
  · intro h
    cases declared with
    | none => cases h
    | some declared =>
      by_cases hname : NamesTime declared
      · rw [suggestedKind, if_pos hname, Cell.convert] at h
        cases hnull : Cell.isNull v with
        | true =>
          rw [hnull] at h
          cases h
        | false =>
          rw [hnull, Cell.read] at h
          refine ⟨⟨declared, rfl, hname⟩, hnull, ?_⟩
          simpa only [if_neg, Bool.false_eq_true, not_false_eq_true, map_eq_error] using h
      · rw [suggestedKind, if_neg hname] at h
        cases h
  · rintro ⟨⟨declared, rfl, hname⟩, hnull, hread⟩
    dsimp only at hnull hread ⊢
    rw [suggestedKind, if_pos hname, Cell.convert, hnull, Cell.read, hread]
    rfl

theorem exists_convert_iff :
    (∃ cell, Cell.convert s.value s.column (suggestedKind s.declared) = .ok cell) ↔
      ∀ cause, ¬ s.Fails cause := by
  simp only [← convert_eq_error]
  cases Cell.convert s.value s.column (suggestedKind s.declared) <;> simp

end Cursor

/-! ### Rows -/

/-- A dictionary that lists a value for each of some names. A name has its first place and its last
value; names that are distinct simply stand with their values. -/
structure Dict.Lists {α : Type} (d : Dict α) (names : List String) (as : List α) : Prop where
  length : as.length = names.length
  keys : d.keys = names.eraseDups
  last : ∀ before name a behind, names.zip as = before ++ (name, a) :: behind →
    name ∉ behind.map Prod.fst → d.get? name = some a
  distinct : names.Nodup → d = names.zip as

theorem Dict.lists_ofEntries {α : Type} {names : List String} {as : List α}
    (h : as.length = names.length) : (Dict.ofEntries (names.zip as)).Lists names as := by
  have hnames : (names.zip as).map Prod.fst = names := List.map_fst_zip (Nat.le_of_eq h.symm)
  refine ⟨h, ?_, ?_, fun hdistinct => ?_⟩
  · rw [Dict.keys_ofEntries, hnames]
  · intro before name a behind hzip hbehind
    rw [hzip, Dict.get?_ofEntries before hbehind]
  · exact Dict.ofEntries_eq_self (by rwa [hnames])

namespace Cursor

variable {c : Cursor} {row : List Value}

/-- Scanning a row as the kinds that are suggested is converting its slots. -/
theorem scan_suggestedKinds (h : c.StandsOn row) : c.scan c.table.suggestedKinds =
    ((c.table.slots row).mapM fun s =>
      Cell.convert s.value s.column (suggestedKind s.declared)).mapError .cell := by
  have hcount : c.table.suggestedKinds.length = c.table.columns.length := List.length_mapIdx
  have hknown : ∀ kind ∈ c.table.suggestedKinds, kind.isKnown := by
    rw [← map_suggestedKind_slots _ row]
    intro kind hkind
    obtain ⟨s, -, rfl⟩ := List.mem_map.1 hkind
    exact isKnown_suggestedKind _
  rw [scan_of_standsOn h hcount hknown, convertAll_eq_mapM _ c.table.types,
    ← map_suggestedKind_slots _ row, ← Table.slots, ← List.map_prod_left_eq_zip, List.mapM_map]
  rfl

/-- The dictionary of a row is made of what the row is scanned as. -/
theorem map_eq_scan (h : c.StandsOn row) : c.map = (c.scan c.table.suggestedKinds).map fun cells =>
    Dict.ofEntries (c.table.columns.zip (cells.map Cell.bare)) := by
  have hguess : guessAll c.table.columns c.table.types row =
      ((c.table.slots row).mapM fun s =>
        Cell.convert s.value s.column (suggestedKind s.declared)).map fun cells =>
          c.table.columns.zip (cells.map Cell.bare) := by
    have hslot : (fun s : Slot => (guess s.column s.declared s.value).map (Prod.mk s.column)) =
        fun s => (Cell.convert s.value s.column (suggestedKind s.declared)).map fun cell =>
          (s.column, cell.bare) := by
      funext s
      rw [guess_eq_convert]
      cases Cell.convert s.value s.column (suggestedKind s.declared) <;> rfl
    rw [guessAll_eq_mapM, hslot, mapM_map (fun (s : Slot) (cell : Cell) => (s.column, cell.bare)),
      ← Table.slots, ← map_column_slots c.table row]
    congr 1
    funext cells
    rw [List.zip_map, List.map_zip_eq_zipWith]
    rfl
  rw [map_of_standsOn h, scan_suggestedKinds h, hguess]
  cases (c.table.slots row).mapM fun s =>
    Cell.convert s.value s.column (suggestedKind s.declared) <;> rfl

/-- On a row, a dictionary and a scan as the kinds that are suggested fail alike, at the first slot
that is declared to hold a date or time and cannot be read as one; or no slot fails, and the
dictionary lists the cells of the scan under the columns. -/
theorem map_agrees_scan (h : c.StandsOn row) :
    (∃ before s behind cause, c.table.slots row = before ++ s :: behind ∧
        (∀ s' ∈ before, ∀ cause', ¬ s'.Fails cause') ∧ s.Fails cause ∧
        c.map = .error (.cell cause) ∧ c.scan c.table.suggestedKinds = .error (.cell cause)) ∨
      ∃ cells d, (∀ s ∈ c.table.slots row, ∀ cause, ¬ s.Fails cause) ∧
        c.scan c.table.suggestedKinds = .ok cells ∧ c.map = .ok d ∧
        Dict.Lists d c.table.columns (cells.map Cell.bare) := by
  have hscan := scan_suggestedKinds h
  have hmap := map_eq_scan h
  cases hcells : (c.table.slots row).mapM fun s =>
    Cell.convert s.value s.column (suggestedKind s.declared) with
  | error cause =>
    rw [hcells] at hscan
    obtain ⟨before, s, behind, hslots, hbefore, hs⟩ := mapM_eq_error.1 hcells
    refine .inl ⟨before, s, behind, cause, hslots, fun s' hs' => ?_, convert_eq_error.1 hs, ?_,
      hscan⟩
    · exact exists_convert_iff.1 (hbefore s' hs')
    · rw [hmap, hscan]
      rfl
  | ok cells =>
    rw [hcells] at hscan
    have hlength : (cells.map Cell.bare).length = c.table.columns.length := by
      rw [List.length_map, ← (mapM_eq_ok.1 hcells).length_eq, length_slots]
    refine .inr ⟨cells, _, fun s hs => ?_, hscan, ?_, Dict.lists_ofEntries hlength⟩
    · obtain ⟨cell, hcell⟩ := exists_of_mapM_eq_ok hcells hs
      exact exists_convert_iff.1 ⟨cell, hcell⟩
    · rw [hmap, hscan]
      rfl

/-- A table with a column that comes twice, a type less than columns, a row that ends early and one
that goes on behind the last column, with a cell that is no time. -/
def ragged : Table where
  columns := ["at", "id", "at", "note"]
  types := ["TIMESTAMP", "INT", "updateTime"]
  rows := [[.null, .int 7, .int 0], [.null, .int 8, .text "noon", .null, .int 9]]
  timing := .zero false

theorem map_agrees_scan_ragged :
    (∃ cells d, scan ⟨ragged, 1, by decide⟩ [.nullable .time, .raw, .nullable .time, .raw] =
        .ok cells ∧ map ⟨ragged, 1, by decide⟩ = .ok d ∧ d.keys = ["at", "id", "note"] ∧
        Dict.Lists d ["at", "id", "at", "note"] (cells.map Cell.bare)) ∧
      ∃ cause, map ⟨ragged, 2, by decide⟩ = .error (.cell cause) ∧
        scan ⟨ragged, 2, by decide⟩ [.nullable .time, .raw, .nullable .time, .raw] =
          .error (.cell cause) := by
  have hkinds : ragged.suggestedKinds = [.nullable .time, .raw, .nullable .time, .raw] := by
    decide +kernel
  have hfirst : (map ⟨ragged, 1, by decide⟩).isOk = true := by decide +kernel
  have hsecond : (map ⟨ragged, 2, by decide⟩).isOk = false := by decide +kernel
  rw [← hkinds]
  constructor
  · obtain ⟨_, _, _, _, -, -, -, hmap, -⟩ | ⟨cells, d, -, hscan, hmap, hlists⟩ :=
      map_agrees_scan (c := ⟨ragged, 1, by decide⟩) ⟨0, rfl, rfl⟩
    · rw [hmap] at hfirst
      cases hfirst
    · exact ⟨cells, d, hscan, hmap, hlists.keys, hlists⟩
  · obtain ⟨_, _, _, cause, -, -, -, hmap, hscan⟩ | ⟨_, _, -, -, hmap, -⟩ :=
      map_agrees_scan (c := ⟨ragged, 2, by decide⟩) ⟨1, rfl, rfl⟩
    · exact ⟨cause, hmap, hscan⟩
    · rw [hmap] at hsecond
      cases hsecond

end Cursor

end SqlCluster
