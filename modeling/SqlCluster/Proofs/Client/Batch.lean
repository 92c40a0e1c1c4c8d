import SqlCluster.Proofs.Client.Turn
import SqlCluster.Proofs.Outcome.Batch

/-!
Batches of a connected client. Statements that cannot be encoded are not sent. All others are sent
in one call to the cluster that the client knows, and what comes back is decoded, in the same way
whether failures are raised or not (`Client.run_of_encode_eq_ok`): that only matters to what is made
of the outcomes.
-/

namespace SqlCluster.Client

variable {c : Client} {op : Operation} {statements : Value} {batch : List Statement}
  {body : List Char} {response : Except DispatchError (List UInt8)} {w w' : Wire}

/-- The call that a client sends the body of a batch in. -/
def batchCall (c : Client) (op : Operation) (body : List Char) : Call :=
  ⟨c.config, op, some (String.ofList body), false⟩

/-- The outcomes in a response to a batch of so many statements. -/
def received (op : Operation) (count : Nat) :
    Except DispatchError (List UInt8) → Except ClientError (List Outcome)
  | .error cause => .error (.dispatch cause)
  | .ok reply => (Response.decode reply op (some count)).mapError .response

/-- What is made of outcomes: where failures are raised, it is looked for some. -/
def raised (raiseErrors : Bool) (os : List Outcome) : Except ClientError (List Outcome) :=
  if raiseErrors then (Outcome.raiseErrors os).mapError .statements else .ok os

theorem run_of_encode_eq_error {cause : EncodeError} (hconnected : c.checkConnected = .ok ())
    (hencode : encode op statements = .error cause) (raiseErrors : Bool) (w : Wire) :
    c.run op statements raiseErrors w = (.error (.encode cause), w) := by
  simp only [run, submit, hconnected, hencode]

/-- A batch that can be encoded is one call, and the outcomes in its response. -/
theorem run_of_encode_eq_ok (hconnected : c.checkConnected = .ok ())
    (hencode : encode op statements = .ok (batch, body))
    (hdispatch : (c.batchCall op body).dispatch c.cluster (w.note (.submitting op batch.length)) =
      (response, w')) (raiseErrors : Bool) :
    c.run op statements raiseErrors w =
      match received op batch.length response with
      | .error cause => (.error cause, w')
      | .ok os => (raised raiseErrors os, w'.note (.decoded os.length)) := by
  rw [batchCall] at hdispatch
  simp only [run, submit, hconnected, hencode, hdispatch]
  cases response with
  | error cause => rfl
  | ok reply =>
    simp only [received]
    cases Response.decode reply op (some batch.length) with
    | error cause => rfl
    | ok os =>
      change _ = (raised raiseErrors os, w'.note (.decoded os.length))
      cases raiseErrors with
      | false => rfl
      | true =>
        simp only [raised, if_true]
        cases Outcome.raiseErrors os <;> rfl

theorem exists_of_received_eq_ok {count : Nat} {os : List Outcome}
    (h : received op count response = .ok os) :
    ∃ reply, response = .ok reply ∧ Response.decode reply op (some count) = .ok os := by
  cases response with
  | error cause => cases h
  | ok reply => exact ⟨reply, rfl, mapError_eq_ok.1 h⟩

/-- Statements that a connected client runs. If they cannot be encoded nothing is sent. Else they
are sent in exactly one call to the cluster that the client knows, whether failures are raised or
not, and the outcomes are one for each statement, in their order. Where failures are raised the
result is those outcomes if no statement failed, or else all failures with all outcomes. -/
theorem run_of_isConnected (hopen : c.closed = false) (hconnected : c.isConnected = true)
    (op : Operation) (statements : Value) (w : Wire) :
    (∀ cause, encode op statements = .error cause → ∀ raiseErrors,
        c.run op statements raiseErrors w = (.error (.encode cause), w)) ∧
      ∀ batch body, encode op statements = .ok (batch, body) → ∃ response w',
        (c.batchCall op body).dispatch c.cluster (w.note (.submitting op batch.length)) =
            (response, w') ∧
          (∀ raiseErrors, (c.run op statements raiseErrors w).2.sent = w'.sent ∧
            (c.run op statements raiseErrors w).2.network = w'.network) ∧
          (∀ cause, (c.run op statements false w).1 = .error cause →
            (c.run op statements true w).1 = .error cause) ∧
          ∀ os, (c.run op statements false w).1 = .ok os →
            (∃ reply, response = .ok reply ∧
              Response.decode reply op (some batch.length) = .ok os) ∧
            Outcome.IsBatch op batch.length os ∧
            ∃ result, Outcome.Raises os result ∧
              (c.run op statements true w).1 = result.mapError .statements := by
  have hcheck := checkConnected_eq_ok.2 ⟨hopen, hconnected⟩
  refine ⟨fun cause hencode raiseErrors => run_of_encode_eq_error hcheck hencode raiseErrors w, ?_⟩
  intro batch body hencode
  rcases hdispatch : (c.batchCall op body).dispatch c.cluster
    (w.note (.submitting op batch.length)) with ⟨response, w'⟩
  -- one equation for both modes, so what they receive is looked at once
  have hrun := run_of_encode_eq_ok hcheck hencode hdispatch
  refine ⟨response, w', rfl, ?_⟩
  simp only [hrun]
  cases hreceived : received op batch.length response with
  | error cause =>
    refine ⟨fun _ => ⟨rfl, rfl⟩, fun _ h => h, ?_⟩
    intro os h
    cases h
  | ok os =>
    refine ⟨fun _ => ⟨rfl, rfl⟩, (fun _ h => by cases h), ?_⟩
    intro os' h
    cases h
    obtain ⟨reply, hreply, hdecode⟩ := exists_of_received_eq_ok hreceived
    have hbatch := Response.isBatch_of_decode hdecode
    exact ⟨⟨reply, hreply, hdecode⟩, hbatch, _, hbatch.raises, rfl⟩

/-- A client with a session to a node. -/
def visitor : Client := (ofConfig { host := "a1" }).openSession

/-- A node that refuses the second of two queries. -/
def refusing : Wire :=
  .ofNetwork [("a1:4001", [("/db/query", [.answer 200 none
    "\x7b\"results\":[\x7b\x7d,\x7b\"error\":\"no such table: foo\"\x7d]\x7d".toUTF8.toList])])]

/-- Two queries. -/
def twoQueries : Value := .list [.text "SELECT 1", .text "SELECT * FROM foo"]

theorem run_of_isConnected_refused :
    ∃ os, (visitor.run .query twoQueries false refusing).1 = .ok os ∧ Outcome.IsBatch .query 2 os ∧
      ∃ errors, (visitor.run .query twoQueries true refusing).1 =
        .error (.statements ⟨errors, os⟩) ∧ errors ≠ [] := by
  have hcount : (encode .query twoQueries).toOption.map (fun (batch, _) => batch.length) =
      some 2 := by decide +kernel
  have hreturns : (visitor.run .query twoQueries false refusing).1.isOk = true := by decide +kernel
  have hraises : (visitor.run .query twoQueries true refusing).1.isOk = false := by decide +kernel
  obtain ⟨-, hrun⟩ := run_of_isConnected (c := visitor) rfl rfl .query twoQueries refusing
  rcases hencode : encode .query twoQueries with cause | ⟨batch, body⟩
  · rw [hencode] at hcount
    cases hcount
  · rw [hencode] at hcount
    have hlength : batch.length = 2 := by simpa [Except.toOption] using hcount
    obtain ⟨response, w', -, -, -, hok⟩ := hrun batch body hencode
    cases hresult : (visitor.run .query twoQueries false refusing).1 with
    | error cause => rw [hresult] at hreturns; cases hreturns
    | ok os =>
      obtain ⟨-, hbatch, result, hresult', htrue⟩ := hok os hresult
      rw [hlength] at hbatch
      cases hresult' with
      | kept => rw [htrue] at hraises; cases hraises
      | raised some => exact ⟨os, rfl, hbatch, _, htrue, some⟩

end SqlCluster.Client
