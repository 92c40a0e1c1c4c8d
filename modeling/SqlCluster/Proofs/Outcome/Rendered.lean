import SqlCluster.Outcome.Response
import SqlCluster.Proofs.Json.Ascii

/-!
Responses read back. A node answers a batch with one object for each outcome, in the fields of its
kind (`Outcome.item`). From the text of such a response the same outcomes are decoded, in the same
order (`Response.decode_rendered`).
-/

namespace SqlCluster

namespace Outcome

/-- The fields that tell of an outcome. -/
def fields : Outcome → List (String × Value)
  | failed e => [("error", .text e.message)]
  | written lastInsertId rowsAffected timing =>
    [("last_insert_id", .int lastInsertId), ("rows_affected", .int rowsAffected),
      ("time", .float timing)]
  | rows t =>
    [("columns", .list (t.columns.map .text)), ("types", .list (t.types.map .text)),
      ("values", .list (t.rows.map .list)), ("time", .float t.timing)]

/-- The object that tells of an outcome. -/
def item (o : Outcome) : Value := .dict o.fields

/-- The object that a node answers a batch with. -/
def rendered (os : List Outcome) : Value := .dict [("results", .list (os.map item))]

/-- What may stand in a cell of a table: null, a boolean, an integer that is short enough to be
written, a finite double or a text. -/
def IsCell : Value → Prop
  | .null | .bool _ | .text _ => True
  | .int n => Numeral.isWritable n
  | .float x => x.isFinite
  | _ => False

/-- Whether an outcome can be told of at an index: a failure has that index, integers are short
enough to be written, times are finite and cells hold what they may. -/
def IsRenderable (index : Nat) : Outcome → Prop
  | failed e => e.index = index
  | written lastInsertId rowsAffected timing =>
    Numeral.isWritable lastInsertId ∧ Numeral.isWritable rowsAffected ∧ timing.isFinite
  | rows t => t.timing.isFinite ∧ ∀ row ∈ t.rows, ∀ cell ∈ row, IsCell cell

instance : DecidablePred IsCell := fun v => by
  cases v <;> unfold IsCell <;> infer_instance

instance (index : Nat) : DecidablePred (IsRenderable index) := fun o => by
  cases o <;> unfold IsRenderable <;> infer_instance

variable {o : Outcome} {index : Nat} {v : Value}

/-! ### Writing -/

theorem exists_write_int {n : ℤ} (h : Numeral.isWritable n) : ∃ t, Json.write (.int n) = .ok t :=
  ⟨_, by rw [Json.write, if_pos h]⟩

theorem exists_write_float {x : Double} (h : x.isFinite) : ∃ t, Json.write (.float x) = .ok t :=
  ⟨_, by rw [Json.write, if_pos h]⟩

theorem exists_write_texts (ss : List String) : ∃ t, Json.write (.list (ss.map .text)) = .ok t := by
  refine Json.exists_write_list fun v hv => ?_
  obtain ⟨s, -, rfl⟩ := List.mem_map.1 hv
  exact ⟨_, rfl⟩

theorem exists_write_of_isCell (h : IsCell v) : ∃ t, Json.write v = .ok t := by
  cases v with
  | null => exact ⟨_, rfl⟩
  | bool b => cases b <;> exact ⟨_, rfl⟩
  | int n => exact exists_write_int h
  | float x => exact exists_write_float h
  | text s => exact ⟨_, rfl⟩
  | _ => cases h

theorem exists_write_item (h : o.IsRenderable index) : ∃ t, Json.write o.item = .ok t := by
  refine Json.exists_write_dict ?_
  cases o with
  | failed e => exact List.forall_mem_singleton.2 ⟨_, rfl⟩
  | written lastInsertId rowsAffected timing =>
    obtain ⟨hid, hrows, htiming⟩ := h
    intro e he
    simp only [fields, List.mem_cons, List.not_mem_nil, or_false] at he
    rcases he with rfl | rfl | rfl
    · exact exists_write_int hid
    · exact exists_write_int hrows
    · exact exists_write_float htiming
  | rows t =>
    obtain ⟨htiming, hcells⟩ := h
    intro e he
    simp only [fields, List.mem_cons, List.not_mem_nil, or_false] at he
    rcases he with rfl | rfl | rfl | rfl
    · exact exists_write_texts t.columns
    · exact exists_write_texts t.types
    · refine Json.exists_write_list fun v hv => ?_
      obtain ⟨row, hrow, rfl⟩ := List.mem_map.1 hv
      exact Json.exists_write_list fun cell hcell =>
        exists_write_of_isCell (hcells row hrow cell hcell)
    · exact exists_write_float htiming

theorem hasDistinctKeys_of_isCell (h : IsCell v) : v.HasDistinctKeys := by
  cases v with
  | list | dict => cases h
  | _ => exact trivial

theorem hasDistinctKeys_texts (ss : List String) : (Value.list (ss.map .text)).HasDistinctKeys := by
  refine Json.haveDistinctKeys_iff.2 fun v hv => ?_
  obtain ⟨s, -, rfl⟩ := List.mem_map.1 hv
  exact trivial

theorem nodup_fields (o : Outcome) : (o.fields.map Prod.fst).Nodup := by
  cases o <;> simp [fields]

theorem hasDistinctKeys_item (h : o.IsRenderable index) : o.item.HasDistinctKeys := by
  refine ⟨o.nodup_fields, ?_⟩
  cases o with
  | failed e => exact ⟨trivial, trivial⟩
  | written lastInsertId rowsAffected timing => exact ⟨trivial, trivial, trivial, trivial⟩
  | rows t =>
    refine ⟨hasDistinctKeys_texts t.columns, hasDistinctKeys_texts t.types, ?_, trivial,
      trivial⟩
    refine Json.haveDistinctKeys_iff.2 fun v hv => ?_
    obtain ⟨row, hrow, rfl⟩ := List.mem_map.1 hv
    exact Json.haveDistinctKeys_iff.2 fun cell hcell =>
      hasDistinctKeys_of_isCell (h.2 row hrow cell hcell)

end Outcome

namespace Response

open Outcome

variable {o : Outcome} {os : List Outcome} {index : Nat}

/-! ### Decoding -/

theorem texts_of_field {field : String} {item : Value} {ss : List String}
    (h : item.field field = .list (ss.map .text)) : texts field item = .ok ss := by
  have hread : (ss.map Value.text).mapM text? = some ss := mapM_map_eq_some fun _ _ => rfl
  rw [texts, h]
  simp only [items?, Option.bind_some, hread]

theorem rows_of_field {item : Value} {rs : List (List Value)}
    (h : item.field "values" = .list (rs.map .list)) : rows item = .ok rs := by
  have hread : (rs.map Value.list).mapM items? = some rs := mapM_map_eq_some fun _ _ => rfl
  rw [rows, h]
  dsimp only [items?, Option.bind_some]
  rw [hread]
  cases rs <;> rfl

theorem table_item (t : Table) : table (item (.rows t)) = .ok t := by
  have hcolumns : texts "columns" (item (.rows t)) = .ok t.columns := texts_of_field rfl
  have htypes : texts "types" (item (.rows t)) = .ok t.types := texts_of_field rfl
  have hrows : rows (item (.rows t)) = .ok t.rows := rows_of_field rfl
  have htime : number "time" (item (.rows t)) = .ok t.timing := rfl
  simp only [table, hcolumns, htypes, hrows, htime, bind, Except.bind]
  rfl

/-- The fields of an object tell its kind. -/
theorem outcome_item (h : o.IsRenderable index) : outcome .request index o.item = .ok o := by
  cases o with
  | failed e =>
    obtain ⟨_, message⟩ := e
    cases h
    rfl
  | written lastInsertId rowsAffected timing => rfl
  | rows t =>
    have houtcome : outcome .request index (item (.rows t)) =
        (table (item (.rows t))).map .rows := rfl
    rw [houtcome, table_item]
    rfl

theorem outcomes_map_item (index : Nat)
    (h : ∀ (i : Nat) (hi : i < os.length), os[i].IsRenderable (index + i)) :
    outcomes .request index (os.map item) = .ok os := by
  induction os generalizing index with
  | nil => rfl
  | cons o os ih =>
    have hfirst : outcome .request index o.item = .ok o := outcome_item (h 0 (by simp))
    have hrest := ih (index + 1) fun i hi => by
      have hindex : index + 1 + i = index + (i + 1) := by omega
      rw [hindex]
      exact h (i + 1) (by simpa using hi)
    rw [List.map_cons, outcomes, hfirst]
    simp only [hrest, bind, Except.bind, pure, Except.pure]

/-- The text of an object that tells of no error is a response that the node accepted. -/
theorem accepted_of_write {entries : List (String × Value)} {text : List Char}
    (htext : Json.write (.dict entries) = .ok text) (hkeys : (Value.dict entries).HasDistinctKeys)
    (herror : (Value.dict entries).field? "error" = none) :
    accepted (Text.Utf8.encode text) = .ok (.dict entries) := by
  rw [accepted, envelope, Json.read_of_write htext hkeys]
  simp only [bind, Except.bind, Value.field, herror]
  rfl

/-- From the text of a response the outcomes are decoded that it tells of, each at its place. -/
theorem decode_rendered {os : List Outcome}
    (h : ∀ (i : Nat) (hi : i < os.length), os[i].IsRenderable i) :
    ∃ text, Json.write (rendered os) = .ok text ∧
      decode (Text.Utf8.encode text) .request (some os.length) = .ok os := by
  have hitems : ∀ v ∈ os.map item, (∃ t, Json.write v = .ok t) ∧ v.HasDistinctKeys := by
    intro v hv
    obtain ⟨o, ho, rfl⟩ := List.mem_map.1 hv
    obtain ⟨i, hi, rfl⟩ := List.getElem_of_mem ho
    exact ⟨exists_write_item (h i hi), hasDistinctKeys_item (h i hi)⟩
  obtain ⟨text, htext⟩ : ∃ text, Json.write (rendered os) = .ok text :=
    Json.exists_write_dict <| List.forall_mem_singleton.2 <|
      Json.exists_write_list fun v hv => (hitems v hv).1
  have hkeys : (rendered os).HasDistinctKeys :=
    ⟨by simp, Json.haveDistinctKeys_iff.2 fun v hv => (hitems v hv).2, trivial⟩
  have hos : outcomes .request 0 (os.map item) = .ok os :=
    outcomes_map_item 0 fun i hi => by rw [Nat.zero_add]; exact h i hi
  have haccepted : accepted (Text.Utf8.encode text) = .ok (rendered os) :=
    accepted_of_write htext hkeys rfl
  have hresults : (rendered os).field "results" = .list (os.map item) := rfl
  refine ⟨text, htext, ?_⟩
  rw [decode, haccepted]
  simp only [bind, Except.bind, hresults, List.length_map]
  rw [if_neg (by simp)]
  exact hos

/-- The outcomes of a batch of three: a failure with a text beyond the sixteen-bit codes, a change
with an integer beyond 64 bits, and a table whose rows have cells of all kinds. -/
def mixed : List Outcome := [
  .failed ⟨0, "near \"\\\": \n\t\x7f é 😀"⟩,
  .written (-36893488147419103232) 9007199254740993 (.zero true),
  .rows {
    columns := ["id", "Größe"]
    types := ["integer"]
    rows := [[.bool true, .int 1, .float (.finite false (Nat.pow 2 52) (-52) (by decide))],
      [.null, .text "1"], []]
    timing := .finite false 5404319552844596 (-53) (by decide) }]

theorem decode_rendered_mixed :
    (∀ (i : Nat) (hi : i < mixed.length), mixed[i].IsRenderable i) ∧
      ∃ text, Json.write (rendered mixed) = .ok text ∧
        decode (Text.Utf8.encode text) .request (some mixed.length) = .ok mixed := by
  have hrenderable : ∀ (i : Nat) (hi : i < mixed.length), mixed[i].IsRenderable i := by
    decide +kernel
  exact ⟨hrenderable, decode_rendered hrenderable⟩

end Response

end SqlCluster
