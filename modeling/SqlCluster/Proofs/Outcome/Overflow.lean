import SqlCluster.Outcome.Response
import SqlCluster.Proofs.Number.Rounding
import SqlCluster.Proofs.Result

/-!
Responses that cannot be decoded. Whatever stands in the fields of a response, it gives outcomes, a
rejection of the whole batch or a malformed response, with one exception: an integer beyond all
doubles as the time of an item. `answers_decode_iff` says exactly when that is met.
-/

namespace SqlCluster.Response

variable {op : Operation} {index : Nat} {item : Value} {items : List Value} {field : String}

/-- A result that a response is meant to give: outcomes, a rejection of the whole batch, or what is
wrong with the response. -/
def Answers (r : Except Error (List Outcome)) : Prop :=
  (∃ os, r = .ok os) ∨ (∃ message, r = .error (.rejected message)) ∨
    ∃ cause, r = .error (.malformed cause)

theorem answers_iff {r : Except Error (List Outcome)} : Answers r ↔ r ≠ .error .beyondDoubles := by
  rcases r with (_ | _ | _) | _ <;> simp [Answers]

instance : DecidablePred Answers
  | .ok os => .isTrue (.inl ⟨os, rfl⟩)
  | .error (.rejected message) => .isTrue (.inr (.inl ⟨message, rfl⟩))
  | .error (.malformed cause) => .isTrue (.inr (.inr ⟨cause, rfl⟩))
  | .error .beyondDoubles => .isFalse fun h => answers_iff.1 h rfl

/-- The fields of an item that are read before its time can be read. -/
def IsReadable (op : Operation) (item : Value) : Prop :=
  if holdsTable op item then
    (∃ columns, texts "columns" item = .ok columns) ∧ (∃ types, texts "types" item = .ok types) ∧
      ∃ rs, rows item = .ok rs
  else
    (∃ n, integer "last_insert_id" item = .ok n) ∧ ∃ n, integer "rows_affected" item = .ok n

/-- An item that tells of no failure, with an integer beyond all doubles as its time and nothing
wrong before that. -/
structure IsBeyondDoubles (op : Operation) (item : Value) : Prop where
  isDict : ∃ entries, item = .dict entries
  unfailed : item.field? "error" = none
  readable : IsReadable op item
  time : ∃ n, item.field "time" = .int n ∧ Double.overflowBound ≤ n.natAbs

/-! ### Fields -/

theorem integer_ne_beyondDoubles : integer field item ≠ .error .beyondDoubles := by
  fun_cases integer field item <;> simp

theorem texts_ne_beyondDoubles : texts field item ≠ .error .beyondDoubles := by
  fun_cases texts field item <;> simp

theorem rows_ne_beyondDoubles : rows item ≠ .error .beyondDoubles := by
  rw [rows]
  split
  · simp
  · split <;> simp

theorem number_eq_beyondDoubles_iff : number field item = .error .beyondDoubles ↔
    ∃ n, item.field field = .int n ∧ Double.overflowBound ≤ n.natAbs := by
  rw [number]
  split
  case h_3 n hn =>
    simp only [hn, ← Double.ofInt?_eq_none_iff]
    cases hdouble : Double.ofInt? n <;> simp [hdouble]
  all_goals simp_all

/-! ### Items -/

theorem table_eq_beyondDoubles_iff : table item = .error .beyondDoubles ↔
    ((∃ columns, texts "columns" item = .ok columns) ∧ (∃ types, texts "types" item = .ok types) ∧
      ∃ rs, rows item = .ok rs) ∧ number "time" item = .error .beyondDoubles := by
  simp only [table, bind_eq_error, texts_ne_beyondDoubles, rows_ne_beyondDoubles, pure_ne_error,
    false_or, and_false, exists_false, or_false, exists_and_right, and_assoc]

theorem change_eq_beyondDoubles_iff : change item = .error .beyondDoubles ↔
    ((∃ n, integer "last_insert_id" item = .ok n) ∧ ∃ n, integer "rows_affected" item = .ok n) ∧
      number "time" item = .error .beyondDoubles := by
  simp only [change, bind_eq_error, integer_ne_beyondDoubles, pure_ne_error, false_or, and_false,
    exists_false, or_false, exists_and_right, and_assoc]

theorem outcome_eq_beyondDoubles_iff :
    outcome op index item = .error .beyondDoubles ↔ IsBeyondDoubles op item := by
  constructor
  · intro h
    cases item with
    | dict entries =>
      rw [outcome] at h
      split at h
      · cases h
      next hunfailed =>
        split at h
        next htable =>
          rw [map_eq_error, table_eq_beyondDoubles_iff, number_eq_beyondDoubles_iff] at h
          exact ⟨⟨entries, rfl⟩, hunfailed, by rw [IsReadable, if_pos htable]; exact h.1, h.2⟩
        next htable =>
          rw [change_eq_beyondDoubles_iff, number_eq_beyondDoubles_iff] at h
          exact ⟨⟨entries, rfl⟩, hunfailed, by rw [IsReadable, if_neg htable]; exact h.1, h.2⟩
    | _ => cases h
  · rintro ⟨⟨entries, rfl⟩, hunfailed, hreadable, htime⟩
    rw [← number_eq_beyondDoubles_iff] at htime
    rw [IsReadable] at hreadable
    rw [outcome, hunfailed]
    dsimp only
    split
    next htable =>
      rw [if_pos htable] at hreadable
      rw [map_eq_error, table_eq_beyondDoubles_iff]
      exact ⟨hreadable, htime⟩
    next htable =>
      rw [if_neg htable] at hreadable
      rw [change_eq_beyondDoubles_iff]
      exact ⟨hreadable, htime⟩

/-- Items are decoded in their order, up to the first that is at fault. The induction is on them. -/
theorem outcomes_eq_beyondDoubles_iff : outcomes op index items = .error .beyondDoubles ↔
    ∃ before item behind os, items = before ++ item :: behind ∧
      outcomes op index before = .ok os ∧ IsBeyondDoubles op item := by
  induction items generalizing index with
  | nil => simp [outcomes]
  | cons item items ih =>
    simp only [outcomes, bind_eq_error, pure_ne_error, and_false, exists_false, or_false,
      outcome_eq_beyondDoubles_iff, ih]
    constructor
    · rintro (h | ⟨o, ho, before, item', behind, os, rfl, hos, h⟩)
      · exact ⟨[], item, items, [], rfl, rfl, h⟩
      · refine ⟨item :: before, item', behind, o :: os, rfl, ?_, h⟩
        rw [outcomes, ho]
        simp only [bind, Except.bind, hos]
        rfl
    · rintro ⟨before, item', behind, os, hitems, hos, h⟩
      cases before with
      | nil =>
        cases hitems
        exact .inl h
      | cons first before =>
        cases hitems
        simp only [outcomes, bind_eq_ok] at hos
        obtain ⟨o, ho, os', hos', -⟩ := hos
        exact .inr ⟨o, ho, before, item', behind, os', rfl, hos', h⟩

/-! ### Responses -/

theorem accepted_ne_beyondDoubles {body : List UInt8} : accepted body ≠ .error .beyondDoubles := by
  have henvelope : envelope body ≠ .error .beyondDoubles := by
    rw [envelope]
    split <;> nofun
  rw [accepted, Ne, bind_eq_error, not_or]
  refine ⟨henvelope, ?_⟩
  rintro ⟨v, -, h⟩
  dsimp only at h
  split at h <;> cases h

theorem decode_eq_beyondDoubles_iff {body : List UInt8} {expected : Option Int} :
    decode body op expected = .error .beyondDoubles ↔
      ∃ v items, accepted body = .ok v ∧ v.field "results" = .list items ∧
        (∀ n ∈ expected, (items.length : Int) = n) ∧
        outcomes op 0 items = .error .beyondDoubles := by
  rw [decode, bind_eq_error]
  simp only [accepted_ne_beyondDoubles, false_or]
  refine exists_congr fun v => ?_
  cases hresults : v.field "results" with
  | list items =>
    cases expected with
    | none => simp
    | some n =>
      dsimp only
      split
      next hcount => simp_all
      next hcount => simp_all
  | _ => simp

/-- A response gives outcomes, a rejection or what is wrong with it, unless its items, in the number
that was expected, come to one whose time is an integer beyond all doubles, with only readable items
before it. -/
theorem answers_decode_iff (body : List UInt8) (op : Operation) (expected : Option Int) :
    Answers (decode body op expected) ↔
      ¬∃ v before item behind os, accepted body = .ok v ∧
        v.field "results" = .list (before ++ item :: behind) ∧
        (∀ n ∈ expected, ((before ++ item :: behind).length : Int) = n) ∧
        outcomes op 0 before = .ok os ∧ IsBeyondDoubles op item := by
  rw [answers_iff, Ne, not_iff_not, decode_eq_beyondDoubles_iff]
  constructor
  · rintro ⟨v, items, hv, hresults, hcount, h⟩
    obtain ⟨before, item, behind, os, rfl, hos, hitem⟩ := outcomes_eq_beyondDoubles_iff.1 h
    exact ⟨v, before, item, behind, os, hv, hresults, hcount, hos, hitem⟩
  · rintro ⟨v, before, item, behind, os, hv, hresults, hcount, hos, hitem⟩
    exact ⟨v, _, hv, hresults, hcount,
      outcomes_eq_beyondDoubles_iff.2 ⟨before, item, behind, os, rfl, hos, hitem⟩⟩

/-- A response to one statement, with a time of 310 digits. -/
def lateResponse : List Char :=
  "\x7b\"results\":[\x7b\"time\":1".toList ++ List.replicate 309 '0' ++ "\x7d]\x7d".toList

theorem not_answers_decode_lateResponse :
    ¬Answers (decode (Text.Utf8.encode lateResponse) .write (some 1)) := by
  decide +kernel

end SqlCluster.Response
