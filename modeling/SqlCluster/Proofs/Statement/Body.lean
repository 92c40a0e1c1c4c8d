import SqlCluster.Statement
import SqlCluster.Proofs.Json.Ascii

/-!
Bodies read back. A batch is accepted if its statements are allowed for the operation and all their
arguments can stand in a body; each statement then stands there as its array (`Statement.array`). So
a body is read as the arrays of its batch (`Statement.read_of_encodeBatch`).
-/

namespace SqlCluster.Statement

open Text

/-- What may be an argument: null, a boolean, a number, a text, a date or a local time. -/
def IsArgument : Value → Prop
  | .null | .bool _ | .int _ | .float _ | .text _ | .date _ | .datetime _ => True
  | _ => False

/-- An argument as it stands in a body: a date or a local time as its text, anything else as it
is. -/
def stored : Value → Value
  | .date d => .text (String.ofList d.text)
  | .datetime t => .text (String.ofList t.text)
  | v => v

/-- What stands in front of the arguments of a statement: `true` if it returns rows of what it
changes, and its text. -/
def front (s : Statement) : List Value :=
  (if s.returning then [.bool true] else []) ++ [.text s.sql]

/-- The array that stands for a statement in a body. -/
def array (s : Statement) : Value := .list (s.front ++ s.arguments.map stored)

variable {op : Operation} {s : Statement} {batch : List Statement} {body : List Char}
  {v w : Value} {vs ws : List Value}

/-! ### Arrays -/

theorem wireArgument?_eq_some : wireArgument? v = some w ↔ IsArgument v ∧ w = stored v := by
  cases v <;> simp [wireArgument?, IsArgument, stored, eq_comm]

theorem wireArgument?_eq_none : wireArgument? v = none ↔ ¬ IsArgument v := by
  cases v <;> simp [wireArgument?, IsArgument]

/-- The induction is on the arguments, of which the positions are counted. -/
theorem wireArguments_eq_ok {index position : Nat} :
    wireArguments index position vs = .ok ws ↔ (∀ v ∈ vs, IsArgument v) ∧ ws = vs.map stored := by
  induction vs generalizing position ws with
  | nil => simp [wireArguments, eq_comm]
  | cons v vs ih =>
    rw [wireArguments, List.forall_mem_cons, List.map_cons]
    split
    next hnone =>
      have hv := wireArgument?_eq_none.1 hnone
      simp [hv]
    next w hsome =>
      obtain ⟨hv, rfl⟩ := wireArgument?_eq_some.1 hsome
      simp only [bind_eq_ok, ih]
      constructor
      · rintro ⟨_, ⟨hvs, rfl⟩, h⟩
        cases h
        exact ⟨⟨hv, hvs⟩, rfl⟩
      · rintro ⟨⟨-, hvs⟩, rfl⟩
        exact ⟨_, ⟨hvs, rfl⟩, rfl⟩

/-- Whether a statement may stand in a batch for an operation: rows of what it changes are returned
by one operation only, and its arguments are such. -/
def Allowed (op : Operation) (s : Statement) : Prop :=
  (s.returning → op = .request) ∧ ∀ v ∈ s.arguments, IsArgument v

theorem wire_eq_ok {index : Nat} :
    s.wire op index = .ok ws ↔ s.Allowed op ∧ ws = s.front ++ s.arguments.map stored := by
  rw [wire, Allowed]
  split
  next h =>
    refine ⟨nofun, fun ⟨hallowed, _⟩ => ?_⟩
    exact absurd (hallowed.1 h.1) h.2
  next h =>
    have hreturning : s.returning → op = .request := fun hr => by_contra fun hop => h ⟨hr, hop⟩
    simp only [bind_eq_ok, wireArguments_eq_ok, front]
    constructor
    · rintro ⟨_, ⟨harguments, rfl⟩, h⟩
      cases h
      exact ⟨⟨hreturning, harguments⟩, by rw [List.append_assoc, List.singleton_append]⟩
    · rintro ⟨⟨-, harguments⟩, rfl⟩
      exact ⟨_, ⟨harguments, rfl⟩, by rw [List.append_assoc, List.singleton_append]; rfl⟩

/-- The induction is on the statements, whose indexes are counted. -/
theorem wireBatch_eq_ok {index : Nat} :
    wireBatch op index batch = .ok ws ↔ (∀ s ∈ batch, s.Allowed op) ∧ ws = batch.map array := by
  induction batch generalizing index ws with
  | nil => simp [wireBatch, eq_comm]
  | cons s batch ih =>
    simp only [wireBatch, bind_eq_ok, wire_eq_ok, ih, List.forall_mem_cons, List.map_cons]
    constructor
    · rintro ⟨_, ⟨hs, rfl⟩, _, ⟨hbatch, rfl⟩, h⟩
      cases h
      exact ⟨⟨hs, hbatch⟩, rfl⟩
    · rintro ⟨⟨hs, hbatch⟩, rfl⟩
      exact ⟨_, ⟨hs, rfl⟩, _, ⟨hbatch, rfl⟩, rfl⟩

/-- A batch is accepted for an operation that takes statements if all its statements are allowed and
the list of its arrays can be written; that is its body. -/
theorem encodeBatch_eq_ok : encodeBatch op batch = .ok body ↔
    op.takesStatements ∧ (∀ s ∈ batch, s.Allowed op) ∧
      Json.write (.list (batch.map array)) = .ok body := by
  rw [encodeBatch]
  split
  next hop => simp_all
  next hop =>
    simp only [bind_eq_ok, wireBatch_eq_ok]
    constructor
    · rintro ⟨_, ⟨hbatch, rfl⟩, h⟩
      split at h
      next hwrite =>
        cases h
        exact ⟨by simpa using hop, hbatch, hwrite⟩
      next => cases h
    · rintro ⟨-, hbatch, hwrite⟩
      exact ⟨_, ⟨hbatch, rfl⟩, by rw [hwrite]⟩

theorem eq_of_mem_array (h : v ∈ s.front ++ s.arguments.map stored) :
    v = .bool true ∨ v = .text s.sql ∨ ∃ a ∈ s.arguments, stored a = v := by
  simp only [front, List.append_assoc, List.mem_append, List.mem_singleton, List.mem_map] at h
  obtain h | h | h := h
  · split at h
    · exact .inl (List.mem_singleton.1 h)
    · cases h
  · exact .inr (.inl h)
  · exact .inr (.inr h)

/-! ### Bodies -/

theorem hasDistinctKeys_stored (h : IsArgument v) : (stored v).HasDistinctKeys := by
  cases v with
  | null | bool | int | float | text | date | datetime => exact trivial
  | _ => cases h

theorem hasDistinctKeys_array (h : ∀ v ∈ s.arguments, IsArgument v) : s.array.HasDistinctKeys := by
  refine Json.haveDistinctKeys_iff.2 fun v hv => ?_
  obtain rfl | rfl | ⟨a, ha, rfl⟩ := eq_of_mem_array hv
  · exact trivial
  · exact trivial
  · exact hasDistinctKeys_stored (h a ha)

/-- The body of a batch is read as the list of its arrays. -/
theorem read_of_encodeBatch (h : encodeBatch op batch = .ok body) :
    Json.read (Utf8.encode body) = .ok (.list (batch.map array)) := by
  obtain ⟨-, hbatch, hwrite⟩ := encodeBatch_eq_ok.1 h
  refine Json.read_of_write hwrite (Json.haveDistinctKeys_iff.2 fun v hv => ?_)
  obtain ⟨s, hs, rfl⟩ := List.mem_map.1 hv
  exact hasDistinctKeys_array (hbatch s hs).2

/-- The body of a batch is ASCII, and it holds one array for each statement, in their order, with
the arguments of the statement as they are, but dates and times as texts. So batches with other
arrays have other bodies. -/
theorem body_holds_arrays (h : encodeBatch op batch = .ok body) :
    Json.read (Utf8.encode body) = .ok (.list (batch.map array)) ∧
      (∀ s ∈ batch, ∀ v ∈ s.arguments, IsArgument v) ∧ Printable body ∧
      ∀ op' batch', encodeBatch op' batch' = .ok body → batch'.map array = batch.map array := by
  obtain ⟨-, hbatch, hwrite⟩ := encodeBatch_eq_ok.1 h
  have hread := read_of_encodeBatch h
  refine ⟨hread, fun s hs => (hbatch s hs).2, Json.printable_of_write _ _ hwrite, ?_⟩
  intro op' batch' h'
  -- one body cannot be read in two ways
  have hsame := (read_of_encodeBatch h').symm.trans hread
  rwa [Except.ok.injEq, Value.list.injEq] at hsame

/-- A batch with arguments of all kinds, among them an integer beyond 64 bits, a text with quotes,
controls and characters beyond the sixteen-bit codes, and a local time with an offset. -/
def varied : List Statement := [
  ⟨"SELECT \"é\"", [], false⟩,
  ⟨"INSERT", [.null, .bool true, .int 1, .int (-36893488147419103232), .float (.zero true),
    .text "\\\"\n\x7f é😀", .date ⟨2024, 2, 29, by decide⟩,
    .datetime ⟨⟨987, 6, 5, by decide⟩, ⟨0, 0, 5, 1200, by decide⟩, some (-3661)⟩], true⟩]

theorem body_holds_arrays_varied :
    ∃ body, encodeBatch .request varied = .ok body ∧
      Json.read (Utf8.encode body) = .ok (.list [
        .list [.text "SELECT \"é\""],
        .list [.bool true, .text "INSERT", .null, .bool true, .int 1,
          .int (-36893488147419103232), .float (.zero true), .text "\\\"\n\x7f é😀",
          .text "2024-02-29", .text "0987-06-05T00:00:05.001200-01:01:01"]]) := by
  have haccepted : (encodeBatch .request varied).isOk = true := by decide +kernel
  cases hbody : encodeBatch .request varied with
  | error cause =>
    rw [hbody] at haccepted
    cases haccepted
  | ok body => exact ⟨body, rfl, (body_holds_arrays hbody).1⟩

end SqlCluster.Statement
