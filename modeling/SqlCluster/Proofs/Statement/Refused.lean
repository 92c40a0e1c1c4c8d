import SqlCluster.Proofs.Statement.Body

/-!
Batches that are refused. A batch is refused for its operation, for a statement that may not return
rows or has an argument of another type, or for a number that cannot be written, and for nothing
else. The first complaint about a statement comes before all numbers
(`Statement.encodeBatch_errors`).
-/

namespace SqlCluster

/-- A reason for which a batch may be refused. -/
def EncodeError.RefusesBatch : EncodeError → Prop
  | wrongOperation _ | returning _ | unsupportedArgument _ _ _ => True
  | unwritable cause => cause = .notFinite ∨ cause = .tooManyDigits
  | argumentsNotASequence _ | notIterable | notAStatement _ => False

namespace Statement

/-- What is wrong with the statement at an index of a batch: first that it may not return rows, then
the first of its arguments that is of another type. -/
inductive Complaint (op : Operation) (index : Nat) (s : Statement) : EncodeError → Prop
  | returning : s.returning → op ≠ .request → Complaint op index s (.returning index)
  | argument {before behind : List Value} {v : Value} : (s.returning → op = .request) →
    s.arguments = before ++ v :: behind → (∀ a ∈ before, IsArgument a) → ¬IsArgument v →
    Complaint op index s (.unsupportedArgument index before.length v.typeName)

/-- What is wrong with the first statement of a batch that may not stand there. -/
def FirstComplaint (op : Operation) (batch : List Statement) (e : EncodeError) : Prop :=
  ∃ before s behind, batch = before ++ s :: behind ∧ (∀ s' ∈ before, s'.Allowed op) ∧
    s.Complaint op before.length e

variable {op : Operation} {s : Statement} {batch : List Statement} {e : EncodeError}
  {v : Value} {vs : List Value}

/-! ### Statements -/

/-- An argument at its position, as it is written. -/
def wireArgument (index : Nat) (p : Value × Nat) : Except EncodeError Value :=
  match wireArgument? p.1 with
  | none => .error (.unsupportedArgument index p.2 p.1.typeName)
  | some w => .ok w

theorem exists_wireArgument_iff {index : Nat} {p : Value × Nat} :
    (∃ w, wireArgument index p = .ok w) ↔ IsArgument p.1 := by
  rw [wireArgument]
  split
  next hnone => exact iff_of_false nofun (wireArgument?_eq_none.1 hnone)
  next w hsome => exact iff_of_true ⟨w, rfl⟩ (wireArgument?_eq_some.1 hsome).1

theorem wireArgument_eq_error {index : Nat} {p : Value × Nat} : wireArgument index p = .error e ↔
    ¬IsArgument p.1 ∧ e = .unsupportedArgument index p.2 p.1.typeName := by
  rw [wireArgument]
  split
  next hnone =>
    simp only [wireArgument?_eq_none.1 hnone, not_false_eq_true, true_and, Except.error.injEq,
      @eq_comm _ e]
  next w hsome =>
    exact iff_of_false nofun fun h => h.1 (wireArgument?_eq_some.1 hsome).1

theorem wireArguments_eq_mapM (index position : Nat) (vs : List Value) :
    wireArguments index position vs = (vs.zipIdx position).mapM (wireArgument index) := by
  induction vs generalizing position with
  | nil => rfl
  | cons v vs ih =>
    rw [wireArguments, List.zipIdx_cons, List.mapM_cons, ih, wireArgument]
    cases wireArgument? v <;> rfl

theorem wireBatch_eq_mapM (op : Operation) (index : Nat) (batch : List Statement) :
    wireBatch op index batch =
      (batch.zipIdx index).mapM fun p => (p.1.wire op p.2).map .list := by
  induction batch generalizing index with
  | nil => rfl
  | cons s batch ih =>
    rw [wireBatch, List.zipIdx_cons, List.mapM_cons, ih]
    cases s.wire op index <;> rfl

theorem wireArguments_eq_error {index : Nat} : wireArguments index 0 vs = .error e ↔
    ∃ before v behind, vs = before ++ v :: behind ∧ (∀ a ∈ before, IsArgument a) ∧ ¬IsArgument v ∧
      e = .unsupportedArgument index before.length v.typeName := by
  rw [wireArguments_eq_mapM, mapM_zipIdx_eq_error fun v i => exists_wireArgument_iff]
  simp only [wireArgument_eq_error, Nat.zero_add]

theorem wire_eq_error {index : Nat} : s.wire op index = .error e ↔ s.Complaint op index e := by
  have hpure (ws : List Value) :
      (pure ((if s.returning then [.bool true] else []) ++ .text s.sql :: ws) :
        Except EncodeError (List Value)) ≠ .error e := nofun
  rw [wire]
  constructor
  · intro h
    split at h
    next hreturning =>
      cases h
      exact .returning hreturning.1 hreturning.2
    next hreturning =>
      have hop : s.returning → op = .request := fun h => by_contra fun hne => hreturning ⟨h, hne⟩
      obtain h | ⟨ws, -, h⟩ := bind_eq_error.1 h
      · obtain ⟨before, v, behind, harguments, hbefore, hv, rfl⟩ := wireArguments_eq_error.1 h
        exact .argument hop harguments hbefore hv
      · exact absurd h (hpure ws)
  · intro h
    cases h with
    | returning hreturning hop => exact if_pos ⟨hreturning, hop⟩
    | argument hop harguments hbefore hv =>
      rw [if_neg fun h => h.2 (hop h.1), bind_eq_error, wireArguments_eq_error]
      exact .inl ⟨_, _, _, harguments, hbefore, hv, rfl⟩

theorem wireBatch_eq_error : wireBatch op 0 batch = .error e ↔ FirstComplaint op batch e := by
  have hwire (s : Statement) (i : Nat) :
      (∃ w, (s.wire op i).map Value.list = .ok w) ↔ s.Allowed op := by
    simp only [map_eq_ok, wire_eq_ok]
    exact ⟨fun ⟨_, _, ⟨h, _⟩, _⟩ => h, fun h => ⟨_, _, ⟨h, rfl⟩, rfl⟩⟩
  rw [wireBatch_eq_mapM, mapM_zipIdx_eq_error hwire]
  simp only [map_eq_error, wire_eq_error, Nat.zero_add, FirstComplaint]

/-- A batch with a statement that may not stand there has a first complaint. -/
theorem exists_firstComplaint (h : ∃ s ∈ batch, ¬s.Allowed op) :
    ∃ e, FirstComplaint op batch e := by
  cases hwire : wireBatch op 0 batch with
  | error e => exact ⟨e, wireBatch_eq_error.1 hwire⟩
  | ok ws =>
    obtain ⟨s, hs, hallowed⟩ := h
    exact absurd ((wireBatch_eq_ok.1 hwire).1 s hs) hallowed

theorem FirstComplaint.refusesBatch (h : FirstComplaint op batch e) : e.RefusesBatch := by
  obtain ⟨before, s, behind, -, -, h⟩ := h
  cases h <;> trivial

theorem FirstComplaint.exists_not_allowed (h : FirstComplaint op batch e) :
    ∃ s ∈ batch, ¬s.Allowed op := by
  obtain ⟨before, s, behind, rfl, -, h⟩ := h
  refine ⟨s, by simp, fun hallowed => ?_⟩
  cases h with
  | returning hreturning hop => exact hop (hallowed.1 hreturning)
  | argument hop harguments hbefore hv =>
    exact hv (hallowed.2 _ (by simp [harguments]))

/-! ### Numbers -/

/-- An argument that is a number and cannot be written: one that is not finite, or an integer with
too many digits. -/
def IsUnwritable : Value → Prop
  | .float x => x = .nan ∨ ∃ negative, x = .infinity negative
  | .int n => 4300 < (Nat.toDigits 10 n.natAbs).length
  | _ => False

theorem write_stored_cases (hv : IsArgument v) :
    (¬IsUnwritable v ∧ ∃ t, Json.write (stored v) = .ok t) ∨
      IsUnwritable v ∧ ∃ cause, Json.write (stored v) = .error cause ∧
        (cause = .notFinite ∨ cause = .tooManyDigits) := by
  cases v with
  | null | text | date | datetime => exact .inl ⟨id, _, rfl⟩
  | bool b => cases b <;> exact .inl ⟨id, _, rfl⟩
  | int n =>
    have hwritable : Numeral.isWritable n ↔ ¬IsUnwritable (.int n) :=
      (@Numeral.isWritable_iff n.natAbs).trans Nat.not_lt.symm
    simp only [stored, Json.write, ← hwritable]
    split
    next h => exact .inl ⟨h, _, rfl⟩
    next h => exact .inr ⟨not_not.1 (mt hwritable.2 h), _, rfl, .inr rfl⟩
  | float x =>
    cases x with
    | nan => exact .inr ⟨.inl rfl, _, rfl, .inl rfl⟩
    | infinity negative => exact .inr ⟨.inr ⟨negative, rfl⟩, _, rfl, .inl rfl⟩
    | finite => exact .inl ⟨by simp [IsUnwritable], _, rfl⟩
  | _ => cases hv

theorem write_array_eq_error {cause : Json.WriteError} (hs : ∀ v ∈ s.arguments, IsArgument v)
    (h : Json.write s.array = .error cause) : (∃ v ∈ s.arguments, IsUnwritable v) ∧
      (cause = .notFinite ∨ cause = .tooManyDigits) := by
  obtain ⟨w, hw, hwrite⟩ := Json.exists_mem_of_write_list h
  obtain rfl | rfl | ⟨v, hv, rfl⟩ := eq_of_mem_array hw
  · cases hwrite
  · cases hwrite
  · obtain ⟨-, t, ht⟩ | ⟨hunwritable, cause', hcause, hnumber⟩ := write_stored_cases (hs v hv)
    · rw [ht] at hwrite
      cases hwrite
    · rw [hcause] at hwrite
      cases hwrite
      exact ⟨⟨v, hv, hunwritable⟩, hnumber⟩

theorem not_isUnwritable_of_write {t : List Char} (hs : ∀ v ∈ s.arguments, IsArgument v)
    (h : Json.write s.array = .ok t) : ∀ v ∈ s.arguments, ¬IsUnwritable v := by
  intro v hv
  have hmem : stored v ∈ s.front ++ s.arguments.map stored :=
    List.mem_append_right _ (List.mem_map_of_mem hv)
  obtain ⟨t, ht⟩ := Json.exists_write_of_mem h hmem
  obtain ⟨hwritable, -⟩ | ⟨-, cause, hcause, -⟩ := write_stored_cases (hs v hv)
  · exact hwritable
  · rw [hcause] at ht
    cases ht

/-! ### Batches -/

theorem not_allowed_iff : ¬s.Allowed op ↔
    (s.returning ∧ op ≠ .request) ∨ ∃ v ∈ s.arguments, ¬IsArgument v := by
  simp only [Allowed, not_and_or, not_forall, exists_prop, ne_eq]

theorem encodeBatch_eq_error (hop : op.takesStatements) : encodeBatch op batch = .error e ↔
    FirstComplaint op batch e ∨ (∀ s ∈ batch, s.Allowed op) ∧
      ∃ cause, Json.write (.list (batch.map array)) = .error cause ∧ e = .unwritable cause := by
  rw [encodeBatch, hop]
  simp only [Bool.not_true, Bool.false_eq_true, if_false, bind_eq_error, wireBatch_eq_error,
    wireBatch_eq_ok]
  refine or_congr_right ?_
  constructor
  · rintro ⟨_, ⟨hbatch, rfl⟩, h⟩
    split at h
    · cases h
    next cause hwrite =>
      cases h
      exact ⟨hbatch, cause, hwrite, rfl⟩
  · rintro ⟨hbatch, cause, hwrite, rfl⟩
    exact ⟨_, ⟨hbatch, rfl⟩, by rw [hwrite]⟩

theorem takesStatements_eq_false_iff :
    op.takesStatements = false ↔ op = .status ∨ op = .nodes := by
  cases op <;> decide

/-- Whether there is anything wrong with a batch: its operation, a statement that may not stand
there, or a number. -/
def IsFaulty (op : Operation) (batch : List Statement) : Prop :=
  (op = .status ∨ op = .nodes) ∨ (∃ s ∈ batch, ¬s.Allowed op) ∨
    ∃ s ∈ batch, ∃ v ∈ s.arguments, IsUnwritable v

theorem isFaulty_of_encodeBatch (h : encodeBatch op batch = .error e) :
    IsFaulty op batch ∧ e.RefusesBatch := by
  cases hop : op.takesStatements with
  | false =>
    rw [encodeBatch, hop] at h
    cases h
    exact ⟨.inl (takesStatements_eq_false_iff.1 hop), trivial⟩
  | true =>
    obtain hcomplaint | ⟨hbatch, cause, hwrite, rfl⟩ := (encodeBatch_eq_error hop).1 h
    · exact ⟨.inr (.inl hcomplaint.exists_not_allowed), hcomplaint.refusesBatch⟩
    · obtain ⟨_, hmem, hwrite⟩ := Json.exists_mem_of_write_list hwrite
      obtain ⟨s, hs, rfl⟩ := List.mem_map.1 hmem
      obtain ⟨hnumber, hcause⟩ := write_array_eq_error (hbatch s hs).2 hwrite
      exact ⟨.inr (.inr ⟨s, hs, hnumber⟩), hcause⟩

theorem not_isFaulty_of_encodeBatch {body : List Char} (h : encodeBatch op batch = .ok body) :
    ¬IsFaulty op batch := by
  obtain ⟨hop, hbatch, hwrite⟩ := encodeBatch_eq_ok.1 h
  rintro (hfaulty | ⟨s, hs, hallowed⟩ | ⟨s, hs, v, hv, hnumber⟩)
  · rw [takesStatements_eq_false_iff.2 hfaulty] at hop
    cases hop
  · exact hallowed (hbatch s hs)
  · obtain ⟨t, ht⟩ := Json.exists_write_of_mem hwrite (List.mem_map_of_mem hs)
    exact not_isUnwritable_of_write (hbatch s hs).2 ht v hv hnumber

/-- A batch is refused exactly for its operation, for a statement that may not return rows or has an
argument of another type, or for a number that cannot be written. Where the operation takes
statements, the first statement that may not stand there is complained of, whatever numbers there
are. -/
theorem encodeBatch_errors (op : Operation) (batch : List Statement) :
    ((∃ e, encodeBatch op batch = .error e) ↔ (op = .status ∨ op = .nodes) ∨
      (∃ s ∈ batch, (s.returning ∧ op ≠ .request) ∨ ∃ v ∈ s.arguments, ¬IsArgument v) ∨
        ∃ s ∈ batch, ∃ v ∈ s.arguments, IsUnwritable v) ∧
    (∀ e, encodeBatch op batch = .error e → e.RefusesBatch) ∧
    (op = .query ∨ op = .write ∨ op = .request →
      ((∃ s ∈ batch, (s.returning ∧ op ≠ .request) ∨ ∃ v ∈ s.arguments, ¬IsArgument v) →
        ∃ e, FirstComplaint op batch e) ∧
      ∀ e, FirstComplaint op batch e → encodeBatch op batch = .error e) := by
  simp only [← not_allowed_iff]
  refine ⟨⟨?_, fun hfaulty => ?_⟩, fun e he => ?_, fun hop => ⟨exists_firstComplaint, ?_⟩⟩
  · rintro ⟨e, he⟩
    exact (isFaulty_of_encodeBatch he).1
  · cases h : encodeBatch op batch with
    | error e => exact ⟨e, rfl⟩
    | ok body => exact absurd hfaulty (not_isFaulty_of_encodeBatch h)
  · exact (isFaulty_of_encodeBatch he).2
  · intro e he
    have htakes : op.takesStatements := by obtain rfl | rfl | rfl := hop <;> rfl
    exact (encodeBatch_eq_error htakes).2 (.inl he)

/-- A number that cannot be written, and behind it a statement that returns rows and has an argument
of another type. -/
def troubled : List Statement :=
  [⟨"SELECT ?", [.float .nan], false⟩, ⟨"INSERT", [.int 1, .bytes []], true⟩]

theorem encodeBatch_errors_troubled :
    encodeBatch .write troubled = .error (.returning 1) ∧
      encodeBatch .request troubled = .error (.unsupportedArgument 1 1 "bytes") := by
  have hfirst (op : Operation) : Allowed op ⟨"SELECT ?", [.float .nan], false⟩ := by
    simp [Allowed, IsArgument]
  have hwrite : FirstComplaint .write troubled (.returning 1) :=
    ⟨[_], _, [], rfl, List.forall_mem_singleton.2 (hfirst _), .returning rfl (by decide)⟩
  have hrequest : FirstComplaint .request troubled (.unsupportedArgument 1 1 "bytes") :=
    ⟨[_], _, [], rfl, List.forall_mem_singleton.2 (hfirst _),
      @Complaint.argument _ _ _ [.int 1] [] (.bytes []) (fun _ => rfl) rfl
        (List.forall_mem_singleton.2 trivial) id⟩
  exact ⟨((encodeBatch_errors .write troubled).2.2 (by decide)).2 _ hwrite,
    ((encodeBatch_errors .request troubled).2.2 (by decide)).2 _ hrequest⟩

end Statement

end SqlCluster
