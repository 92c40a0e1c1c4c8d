import SqlCluster.Proofs.Outcome.Overflow
import SqlCluster.Proofs.Outcome.Rendered

/-!
Fields of the wrong shape. An item that tells of no failure is read field by field, and each field
has a shape: a list of texts, a list of rows, an integral number or a number, with null standing for
a field that is absent. A field of another shape makes the response malformed, with one exception:
values that are no list but count as absent, such as false, zero or an empty text, are read as no
rows. `Response.decode_iff_of_accepted` says so for every response of which the node took the batch.
-/

namespace SqlCluster.Response

/-- A field of an item that tells of no failure. -/
inductive Field where
  | columns
  | types
  | values
  | lastInsertId
  | rowsAffected
  | time
  deriving DecidableEq

namespace Field

/-- The key under which a field stands. -/
def key : Field → String
  | columns => "columns"
  | types => "types"
  | values => "values"
  | lastInsertId => "last_insert_id"
  | rowsAffected => "rows_affected"
  | time => "time"

/-- Whether a value is of the shape of a field. A boolean is no number. -/
def Admits : Field → Value → Prop
  | columns, v | types, v => ∃ ss : List String, v = .list (ss.map .text)
  | values, v => ∃ rows : List (List Value), v = .list (rows.map .list)
  | lastInsertId, v | rowsAffected, v =>
    (∃ n, v = .int n) ∨ ∃ x n, v = .float x ∧ x.toInt? = some n
  | time, v => (∃ n, v = .int n) ∨ ∃ x, v = .float x

/-- A field that is present and not null, in another shape than its own. -/
def IsMisshapen (f : Field) (item : Value) : Prop :=
  item.field f.key ≠ .null ∧ ¬f.Admits (item.field f.key)

/-- A field in another shape than its own that is not overlooked either, as values are that count as
absent. -/
def IsRefused (f : Field) (item : Value) : Prop :=
  f.IsMisshapen item ∧ (f = values → (item.field f.key).isTruthy)

/-- What is wrong with a response where a field has a value of another shape. -/
def fault (f : Field) (v : Value) : Malformed :=
  match f with
  | columns | types => .notTexts f.key
  | values => .notRows
  | lastInsertId | rowsAffected =>
    match v with
    | .bool b => .notANumber f.key (.bool b)
    | _ => .notAnInteger f.key v
  | time => .notANumber f.key v

/-- Whether a field can be read. -/
def check (item : Value) : Field → Except Error Unit
  | f@columns | f@types => (texts f.key item).map fun _ => ()
  | values => (rows item).map fun _ => ()
  | f@lastInsertId | f@rowsAffected => (integer f.key item).map fun _ => ()
  | f@time => (number f.key item).map fun _ => ()

end Field

/-- The fields that are read of an item, in the order in which they are read. -/
def fieldsRead (op : Operation) (item : Value) : List Field :=
  if holdsTable op item then [.columns, .types, .values, .time]
  else [.lastInsertId, .rowsAffected, .time]

/-- An item that makes its response malformed: it is no object, or it tells of no failure and one of
the fields that are read of it is refused. -/
def IsFaulty (op : Operation) (item : Value) : Prop :=
  (∀ entries, item ≠ .dict entries) ∨
    item.field? "error" = none ∧ ∃ f ∈ fieldsRead op item, f.IsRefused item

variable {op : Operation} {index : Nat} {item : Value} {items : List Value} {e : Error}
  {cause : Malformed}

/-! ### Fields -/

theorem bind_items?_eq_some_iff {α : Type} {g : Value → Option α} {f : α → Value} {v : Value}
    {as : List α} (hg : ∀ v a, g v = some a ↔ v = f a) :
    (items? v).bind (·.mapM g) = some as ↔ v = .list (as.map f) := by
  cases v with
  | list vs => rw [items?, Option.bind_some, mapM_eq_some_iff hg, Value.list.injEq]
  | _ => simp [items?]

theorem bind_items?_eq_none_iff {α : Type} {g : Value → Option α} {f : α → Value} {v : Value}
    (hg : ∀ v a, g v = some a ↔ v = f a) :
    (items? v).bind (·.mapM g) = none ↔ ¬∃ as : List α, v = .list (as.map f) := by
  simp only [← bind_items?_eq_some_iff hg, Option.eq_none_iff_forall_ne_some, not_exists, ne_eq]

theorem text?_eq_some {v : Value} {s : String} : text? v = some s ↔ v = .text s := by
  cases v <;> simp [text?]

theorem items?_eq_some {v : Value} {vs : List Value} : items? v = some vs ↔ v = .list vs := by
  cases v <;> simp [items?]

namespace Field

variable {f : Field}

theorem texts_eq_malformed_iff (hf : f = columns ∨ f = types) :
    texts f.key item = .error (.malformed cause) ↔
      f.IsMisshapen item ∧ cause = f.fault (item.field f.key) := by
  have hadmits : f.Admits (item.field f.key) ↔
      ∃ ss : List String, item.field f.key = .list (ss.map .text) := by
    obtain rfl | rfl := hf <;> rfl
  have hfault : f.fault (item.field f.key) = .notTexts f.key := by
    obtain rfl | rfl := hf <;> rfl
  rw [IsMisshapen, hadmits, ← bind_items?_eq_none_iff fun _ _ => text?_eq_some, hfault, texts]
  split
  next hnull => simp [hnull]
  next hpresent =>
    have hpresent : item.field f.key ≠ .null := hpresent
    cases hread : (items? (item.field f.key)).bind (·.mapM text?) <;>
      simp [hpresent, eq_comm (a := cause)]

/-- Values that count as absent are not looked at. -/
theorem rows_eq_malformed_iff : rows item = .error (.malformed cause) ↔
    values.IsRefused item ∧ cause = .notRows := by
  have hrefused : values.IsRefused item ↔
      (items? (item.field "values")).bind (·.mapM items?) = none ∧
        (item.field "values").isTruthy := by
    rw [bind_items?_eq_none_iff fun _ _ => items?_eq_some, IsRefused, IsMisshapen, key]
    constructor
    · rintro ⟨⟨-, hshape⟩, htruthy⟩
      exact ⟨hshape, htruthy rfl⟩
    · rintro ⟨hshape, htruthy⟩
      refine ⟨⟨fun hnull => ?_, hshape⟩, fun _ => htruthy⟩
      rw [hnull] at htruthy
      cases htruthy
  rw [hrefused, rows]
  cases hread : (items? (item.field "values")).bind (·.mapM items?) <;>
    cases htruthy : (item.field "values").isTruthy <;> simp [eq_comm (a := cause)]

theorem integer_eq_malformed_iff (hf : f = lastInsertId ∨ f = rowsAffected) :
    integer f.key item = .error (.malformed cause) ↔
      f.IsMisshapen item ∧ cause = f.fault (item.field f.key) := by
  rw [IsMisshapen, integer]
  generalize item.field f.key = v
  obtain rfl | rfl := hf <;> cases v with
  | float x => cases hx : x.toInt? <;> simp [hx, Admits, fault, eq_comm (a := cause)]
  | _ => simp [Admits, fault, eq_comm (a := cause)]

theorem number_eq_malformed_iff : number time.key item = .error (.malformed cause) ↔
    time.IsMisshapen item ∧ cause = time.fault (item.field time.key) := by
  rw [IsMisshapen, number]
  generalize item.field time.key = v
  cases v with
  | int n => cases hn : Double.ofInt? n <;> simp [hn, Admits]
  | _ => simp [Admits, fault, eq_comm (a := cause)]

/-- A field that is read is malformed exactly if it is refused. -/
theorem check_eq_malformed_iff : f.check item = .error (.malformed cause) ↔
    f.IsRefused item ∧ cause = f.fault (item.field f.key) := by
  have hrefused (hf : f ≠ values) : f.IsRefused item ↔ f.IsMisshapen item :=
    and_iff_left fun h => absurd h hf
  cases f with
  | columns => rw [check, map_eq_error, hrefused nofun, texts_eq_malformed_iff (.inl rfl)]
  | types => rw [check, map_eq_error, hrefused nofun, texts_eq_malformed_iff (.inr rfl)]
  | values => rw [check, map_eq_error, rows_eq_malformed_iff, fault]
  | lastInsertId => rw [check, map_eq_error, hrefused nofun, integer_eq_malformed_iff (.inl rfl)]
  | rowsAffected => rw [check, map_eq_error, hrefused nofun, integer_eq_malformed_iff (.inr rfl)]
  | time => rw [check, map_eq_error, hrefused nofun, number_eq_malformed_iff]

theorem check_ne_rejected {message : String} : f.check item ≠ .error (.rejected message) := by
  cases f with
  | columns | types =>
    rw [check, Ne, map_eq_error]
    fun_cases texts _ item <;> simp
  | values =>
    rw [check, Ne, map_eq_error, rows]
    split
    · simp
    · split <;> simp
  | lastInsertId | rowsAffected =>
    rw [check, Ne, map_eq_error]
    fun_cases integer _ item <;> simp
  | time =>
    rw [check, Ne, map_eq_error]
    fun_cases number _ item <;> simp

end Field

/-! ### Items -/

/-- An item that tells of no failure is at fault as the first of its fields is. -/
theorem outcome_eq_error_iff {entries : List (String × Value)}
    (h : (Value.dict entries).field? "error" = none) :
    outcome op index (.dict entries) = .error e ↔
      (fieldsRead op (.dict entries)).mapM (Field.check (.dict entries)) = .error e := by
  rw [outcome, h, fieldsRead]
  dsimp only
  split
  · rw [map_eq_error]
    simp only [table, List.mapM_cons, List.mapM_nil, Field.check, Field.key, bind_eq_error,
      map_eq_error, map_eq_ok, pure_ne_error]
    simp
  · simp only [change, List.mapM_cons, List.mapM_nil, Field.check, Field.key, bind_eq_error,
      map_eq_error, map_eq_ok, pure_ne_error]
    simp

theorem exists_check_of_isReadable {f : Field} (h : IsReadable op item)
    (hread : f ∈ fieldsRead op item) (htime : f ≠ .time) : ∃ u, f.check item = .ok u := by
  rw [IsReadable] at h
  rw [fieldsRead] at hread
  split at h
  next htable =>
    rw [if_pos htable] at hread
    obtain ⟨⟨columns, hcolumns⟩, ⟨types, htypes⟩, rs, hrows⟩ := h
    simp only [List.mem_cons, List.not_mem_nil, or_false] at hread
    obtain rfl | rfl | rfl | rfl := hread
    · exact ⟨(), map_eq_ok.2 ⟨columns, hcolumns, rfl⟩⟩
    · exact ⟨(), map_eq_ok.2 ⟨types, htypes, rfl⟩⟩
    · exact ⟨(), map_eq_ok.2 ⟨rs, hrows, rfl⟩⟩
    · exact absurd rfl htime
  next htable =>
    rw [if_neg htable] at hread
    obtain ⟨⟨lastInsertId, hlastInsertId⟩, rowsAffected, hrowsAffected⟩ := h
    simp only [List.mem_cons, List.not_mem_nil, or_false] at hread
    obtain rfl | rfl | rfl := hread
    · exact ⟨(), map_eq_ok.2 ⟨lastInsertId, hlastInsertId, rfl⟩⟩
    · exact ⟨(), map_eq_ok.2 ⟨rowsAffected, hrowsAffected, rfl⟩⟩
    · exact absurd rfl htime

/-- The time of an item is read last, so a refused field is met before it. -/
theorem not_isBeyondDoubles_of_isRefused {f : Field} (hread : f ∈ fieldsRead op item)
    (hrefused : f.IsRefused item) : ¬IsBeyondDoubles op item := by
  intro h
  have hcheck := Field.check_eq_malformed_iff.2 ⟨hrefused, rfl⟩
  by_cases htime : f = .time
  · subst htime
    rw [Field.check, map_eq_error, Field.key, number_eq_beyondDoubles_iff.2 h.time] at hcheck
    cases hcheck
  · obtain ⟨u, hu⟩ := exists_check_of_isReadable h.readable hread htime
    rw [hu] at hcheck
    cases hcheck

theorem outcome_ne_rejected {message : String} :
    outcome op index item ≠ .error (.rejected message) := by
  intro h
  cases item with
  | dict entries =>
    cases herror : (Value.dict entries).field? "error" with
    | some v =>
      rw [outcome, herror] at h
      cases h
    | none =>
      rw [outcome_eq_error_iff herror] at h
      obtain ⟨_, f, _, -, -, h⟩ := mapM_eq_error.1 h
      exact Field.check_ne_rejected h
  | _ => cases h

theorem outcome_ne_ok_of_isRefused {entries : List (String × Value)} {f : Field} {o : Outcome}
    (herror : (Value.dict entries).field? "error" = none)
    (hread : f ∈ fieldsRead op (.dict entries)) (hrefused : f.IsRefused (.dict entries)) :
    outcome op index (.dict entries) ≠ .ok o := by
  intro h
  cases hfields : (fieldsRead op (.dict entries)).mapM (Field.check (.dict entries)) with
  | error e =>
    rw [(outcome_eq_error_iff herror).2 hfields] at h
    cases h
  | ok us =>
    obtain ⟨u, hu⟩ := exists_of_mapM_eq_ok hfields hread
    rw [Field.check_eq_malformed_iff.2 ⟨hrefused, rfl⟩] at hu
    cases hu

/-- The fault of a malformed item names its index or the key of a field that is refused. -/
theorem fault_of_outcome (h : outcome op index item = .error (.malformed cause)) :
    (∀ entries, item ≠ .dict entries) ∧ cause = .itemNotAnObject index ∨
      item.field? "error" = none ∧ ∃ f ∈ fieldsRead op item, f.IsRefused item ∧
        cause = f.fault (item.field f.key) := by
  cases item with
  | dict entries =>
    cases herror : (Value.dict entries).field? "error" with
    | some v =>
      rw [outcome, herror] at h
      cases h
    | none =>
      rw [outcome_eq_error_iff herror] at h
      obtain ⟨before, f, behind, hfields, -, h⟩ := mapM_eq_error.1 h
      exact .inr ⟨rfl, f, by simp [hfields], Field.check_eq_malformed_iff.1 h⟩
  | _ =>
    cases h
    exact .inl ⟨by simp, rfl⟩

theorem outcome_malformed_iff (index : Nat) :
    (∃ cause, outcome op index item = .error (.malformed cause)) ↔ IsFaulty op item := by
  constructor
  · rintro ⟨cause, h⟩
    obtain ⟨hitem, -⟩ | ⟨herror, f, hread, hrefused, -⟩ := fault_of_outcome h
    · exact .inl hitem
    · exact .inr ⟨herror, f, hread, hrefused⟩
  · intro h
    cases item with
    | dict entries =>
      obtain hitem | ⟨herror, f, hread, hrefused⟩ := h
      · exact absurd rfl (hitem entries)
      match houtcome : outcome op index (.dict entries) with
      | .error (.malformed cause) => exact ⟨cause, rfl⟩
      | .error (.rejected message) => exact absurd houtcome outcome_ne_rejected
      | .error .beyondDoubles =>
        exact absurd (outcome_eq_beyondDoubles_iff.1 houtcome)
          (not_isBeyondDoubles_of_isRefused hread hrefused)
      | .ok o => exact absurd houtcome (outcome_ne_ok_of_isRefused herror hread hrefused)
    | _ => exact ⟨_, rfl⟩

theorem exists_outcome_iff (index : Nat) :
    (∃ o, outcome op index item = .ok o) ↔ ¬IsFaulty op item ∧ ¬IsBeyondDoubles op item := by
  rw [← outcome_malformed_iff index, ← @outcome_eq_beyondDoubles_iff op index item]
  match houtcome : outcome op index item with
  | .error (.malformed cause) => simp
  | .error (.rejected message) => exact absurd houtcome outcome_ne_rejected
  | .error .beyondDoubles => simp
  | .ok o => simp

/-! ### Responses -/

theorem exists_outcomes_iff (index : Nat) : (∃ os, outcomes op index items = .ok os) ↔
    ∀ item ∈ items, ¬IsFaulty op item ∧ ¬IsBeyondDoubles op item := by
  induction items generalizing index with
  | nil => simp [outcomes]
  | cons item items ih =>
    rw [List.forall_mem_cons, ← ih (index + 1), ← exists_outcome_iff index]
    simp only [outcomes, bind_eq_ok, pure, Except.pure, Except.ok.injEq]
    constructor
    · rintro ⟨_, o, ho, os, hos, -⟩
      exact ⟨⟨o, ho⟩, os, hos⟩
    · rintro ⟨⟨o, ho⟩, os, hos⟩
      exact ⟨_, o, ho, os, hos, rfl⟩

/-- Nothing but a time beyond all doubles keeps a faulty item from being met. The induction is on
the items. -/
theorem outcomes_malformed_iff (index : Nat) :
    (∃ cause, outcomes op index items = .error (.malformed cause)) ↔
      ∃ before item behind, items = before ++ item :: behind ∧
        (∀ item' ∈ before, ¬IsBeyondDoubles op item') ∧ IsFaulty op item := by
  induction items generalizing index with
  | nil => simp [outcomes]
  | cons item items ih =>
    simp only [outcomes, bind_eq_error, pure_ne_error, and_false, exists_false, or_false,
      exists_or, outcome_malformed_iff index]
    constructor
    · rintro (hitem | ⟨cause, o, ho, h⟩)
      · exact ⟨[], item, items, rfl, List.forall_mem_nil _, hitem⟩
      · obtain ⟨before, item', behind, rfl, hbefore, hitem'⟩ := (ih (index + 1)).1 ⟨cause, h⟩
        have hitem := ((exists_outcome_iff index).1 ⟨o, ho⟩).2
        exact ⟨item :: before, item', behind, rfl, List.forall_mem_cons.2 ⟨hitem, hbefore⟩,
          hitem'⟩
    · rintro ⟨before, item', behind, hitems, hbefore, hitem'⟩
      cases before with
      | nil =>
        cases hitems
        exact .inl hitem'
      | cons first before =>
        cases hitems
        obtain ⟨hitem, hbefore⟩ := List.forall_mem_cons.1 hbefore
        by_cases hfaulty : IsFaulty op item
        · exact .inl hfaulty
        · obtain ⟨o, ho⟩ := (exists_outcome_iff index).2 ⟨hfaulty, hitem⟩
          obtain ⟨cause, h⟩ := (ih (index + 1)).2 ⟨before, item', behind, rfl, hbefore, hitem'⟩
          exact .inr ⟨cause, o, ho, h⟩

variable {body : List UInt8} {expected : Option Int} {v : Value}

theorem decode_of_accepted (haccepted : accepted body = .ok v)
    (hresults : v.field "results" = .list items)
    (hcount : ∀ n ∈ expected, (items.length : Int) = n) :
    decode body op expected = outcomes op 0 items := by
  rw [decode, haccepted]
  simp only [bind, Except.bind, hresults]
  cases expected with
  | none => rfl
  | some n => exact if_neg (not_not.2 (hcount n rfl))

/-- A response that the node accepted, with as many items as expected, gives outcomes exactly if no
item is faulty and no time is beyond all doubles. It is malformed exactly if it has a faulty item
with no such time before it. A misshapen field makes an item faulty, values that count as absent
excepted. -/
theorem decode_iff_of_accepted (haccepted : accepted body = .ok v)
    (hresults : v.field "results" = .list items)
    (hcount : ∀ n ∈ expected, (items.length : Int) = n) :
    ((∃ os, decode body op expected = .ok os) ↔
      ∀ item ∈ items, ¬IsFaulty op item ∧ ¬IsBeyondDoubles op item) ∧
    ((∃ cause, decode body op expected = .error (.malformed cause)) ↔
      ∃ before item behind, items = before ++ item :: behind ∧
        (∀ item' ∈ before, ¬IsBeyondDoubles op item') ∧ IsFaulty op item) := by
  rw [decode_of_accepted haccepted hresults hcount]
  exact ⟨exists_outcomes_iff 0, outcomes_malformed_iff 0⟩

/-- A response to two queries, of which the second has a text in the place of a row. -/
def crookedResponse : List (String × Value) :=
  [("results", .list [.dict [("values", .list [.list [.text "a"]])],
    .dict [("values", .list [.text "a"])]])]

theorem decode_crookedResponse : ∃ text, Json.write (.dict crookedResponse) = .ok text ∧
    ∃ cause, decode (Text.Utf8.encode text) .query (some 2) = .error (.malformed cause) := by
  have hkeys : (Value.dict crookedResponse).HasDistinctKeys := by
    simp [crookedResponse, Value.HasDistinctKeys, Value.HaveDistinctKeys,
      Value.EntriesHaveDistinctKeys]
  obtain ⟨text, htext⟩ : ∃ text, Json.write (.dict crookedResponse) = .ok text := ⟨_, rfl⟩
  have haccepted := accepted_of_write htext hkeys rfl
  refine ⟨text, htext, (decode_iff_of_accepted haccepted rfl (by simp)).2.2 ?_⟩
  refine ⟨[_], _, [], rfl, ?_, ?_⟩
  · rintro item hitem h
    cases List.mem_singleton.1 hitem
    obtain ⟨n, hn, -⟩ := h.time
    cases hn
  · refine .inr ⟨rfl, .values, by decide, ⟨Value.noConfusion, ?_⟩, fun _ => rfl⟩
    rintro ⟨_ | _, h⟩ <;> cases h

/-- A response to a query with false in the place of its rows. -/
def rowlessResponse : List (String × Value) :=
  [("results", .list [.dict [("columns", .list [.text "id"]), ("values", .bool false)]])]

/-- Values that are misshapen but count as absent are read as no rows. -/
theorem decode_rowlessResponse : ∃ text item, Json.write (.dict rowlessResponse) = .ok text ∧
    (Value.dict rowlessResponse).field "results" = .list [item] ∧
      item.field? "error" = none ∧ .values ∈ fieldsRead .query item ∧
      Field.values.IsMisshapen item ∧
      decode (Text.Utf8.encode text) .query (some 1) =
        .ok [.rows ⟨["id"], [], [], .zero false⟩] := by
  have hkeys : (Value.dict rowlessResponse).HasDistinctKeys := by
    simp [rowlessResponse, Value.HasDistinctKeys, Value.HaveDistinctKeys,
      Value.EntriesHaveDistinctKeys]
  obtain ⟨text, htext⟩ : ∃ text, Json.write (.dict rowlessResponse) = .ok text := ⟨_, rfl⟩
  refine ⟨text, _, htext, rfl, rfl, by decide, ⟨Value.noConfusion, ?_⟩, ?_⟩
  · rintro ⟨rows, h⟩
    cases h
  · rw [decode_of_accepted (accepted_of_write htext hkeys rfl) rfl (by simp)]
    rfl

end SqlCluster.Response
