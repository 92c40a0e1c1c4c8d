import SqlCluster.Proofs.Client.Lifecycle
import SqlCluster.Proofs.Client.Snapshot

/-!
The sessions of a client. A client that is connected uses the session that it opened last, and all
before it are closed; a client that is not connected has closed them all (`Client.Tidy`). Every turn
keeps this, so a client never holds more than one session open, and gives none up by losing it.
-/

namespace SqlCluster.Client

variable {c c' : Client} {w w' : Wire} {s : Step} {r : Except ClientError Answer}

/-- The sessions of a client are in order: it uses none and all are closed, or it uses the last one
and all before that are closed. -/
inductive Tidy (c : Client) : Prop
  | idle (unused : c.current = none) (spent : ∀ session ∈ c.sessions, session.closed = true)
  | busy {spent : List Session} {session : Session} (unclosed : c.closed = false)
      (sessions : c.sessions = spent ++ [session]) (used : c.current = some spent.length)
      (running : session.closed = false) (before : ∀ session ∈ spent, session.closed = true)

/-! ### Every turn keeps the sessions in order -/

/-- A client that uses no session opens one behind those that it closed. -/
theorem Tidy.openSession (h : c.Tidy) (hclosed : c.closed = false) (hcurrent : c.current = none) :
    c.openSession.Tidy := by
  cases h with
  | idle _ spent => exact .busy hclosed rfl rfl rfl spent
  | busy _ _ used =>
    rw [hcurrent] at used
    cases used

theorem forall_closed_closeSession (h : c.Tidy) :
    ∀ session ∈ c.closeSession.sessions, session.closed = true := by
  cases h with
  | idle unused spent => simpa [closeSession, unused] using spent
  | @busy spent session _ sessions used _ before =>
    -- the session in use is the one behind all others
    rw [closeSession, used]
    dsimp only
    rw [sessions, List.modify_eq_take_cons_drop (by simp)]
    simpa [or_imp, forall_and] using before

theorem Tidy.closeSession (h : c.Tidy) : c.closeSession.Tidy :=
  .idle (current_closeSession c) (forall_closed_closeSession h)

/-- Whether the sessions are in order is told by them, the one in use and whether the client is
closed. -/
theorem Tidy.congr (h : c.Tidy) (hsessions : c'.sessions = c.sessions)
    (hcurrent : c'.current = c.current) (hclosed : c'.closed = c.closed) : c'.Tidy := by
  cases h with
  | idle unused spent => exact .idle (hcurrent.trans unused) (hsessions ▸ spent)
  | busy unclosed sessions used running before =>
    exact .busy (hclosed.trans unclosed) (hsessions.trans sessions) (hcurrent.trans used) running
      before

theorem Tidy.turn (h : c.Turn w s r c' w') (hc : c.Tidy) : c'.Tidy := by
  cases h with
  | still | submitted | unrefreshed => exact hc
  | leveled | switched | refreshed => exact hc.congr rfl rfl rfl
  | opened unclosed _ fresh => exact hc.openSession unclosed fresh
  | connected unclosed _ fresh => exact (hc.openSession unclosed fresh).congr rfl rfl rfl
  | unconnected unclosed _ fresh => exact (hc.openSession unclosed fresh).closeSession
  | ended => exact .idle (current_closeSession c) (forall_closed_closeSession hc)

theorem tidy_of_create_performAll {url : String} {o : Options} {n : Network}
    (h : create url o n = .ok (c, w)) (ss : List Step) : (c.performAll w ss).2.1.Tidy := by
  have hfresh : c.Tidy := by
    rw [(eq_of_create h).1]
    exact .idle rfl (fun _ hsession => by cases hsession)
  exact performAll_induction (P := fun c _ => c.Tidy) Tidy.turn hfresh ss

/-! ### What order among the sessions means -/

/-- A client is connected while it has an open session. -/
theorem Tidy.isConnected_iff (h : c.Tidy) :
    c.isConnected = true ↔ ∃ session ∈ c.sessions, session.closed = false := by
  cases h with
  | idle unused spent => simpa [isConnected, unused] using spent
  | busy _ sessions used running =>
    refine iff_of_true (by simp [isConnected, used]) ⟨_, ?_, running⟩
    rw [sessions]
    simp

theorem Tidy.length_filter_le (h : c.Tidy) :
    (c.sessions.filter fun session => !session.closed).length ≤ 1 := by
  cases h with
  | idle _ spent =>
    rw [List.filter_eq_nil_iff.2 (by simpa using spent)]
    exact Nat.zero_le 1
  | busy _ sessions _ _ before =>
    rw [sessions, List.filter_append, List.filter_eq_nil_iff.2 (by simpa using before)]
    exact List.length_filter_le _ _

theorem Tidy.forall_closed (h : c.Tidy) (hidle : c.isConnected = false) :
    ∀ session ∈ c.sessions, session.closed = true := by
  intro session hsession
  by_contra hopen
  rw [h.isConnected_iff.2 ⟨session, hsession, Bool.eq_false_iff.2 hopen⟩] at hidle
  cases hidle

theorem Tidy.isConnected_of_closed (h : c.Tidy) (hclosed : c.closed = true) :
    c.isConnected = false := by
  cases h with
  | idle unused => exact isConnected_eq_false.2 unused
  | busy unclosed =>
    rw [hclosed] at unclosed
    cases unclosed

/-! ### Connecting -/

/-- Asked to connect, a client opens a session behind those that it had, with the limit and the
timeout of its configuration. It uses that session if it succeeds, and else closes it again. -/
structure Opens (c : Client) (w : Wire) (s : Step) : Prop where
  sessions : (c.step w s).2.1.sessions = c.sessions ++
    [⟨c.config.maxConnections, c.config.timeout, !(c.step w s).1.isOk⟩]
  current : (c.step w s).2.1.current =
    if (c.step w s).1.isOk then some c.sessions.length else none

/-- Connecting a client that is open and not connected comes to one of two things: it uses a session
that it just opened, or it closed that again. -/
theorem connect_cases (w : Wire) (hclosed : c.closed = false) (hcurrent : c.current = none) :
    ((c.connect w).1 = .ok () ∧ (c.connect w).2.1.sessions = c.openSession.sessions ∧
        (c.connect w).2.1.current = c.openSession.current) ∨
      ∃ cause, (c.connect w).1 = .error (.discovery cause) ∧
        (c.connect w).2.1 = c.openSession.closeSession := by
  have hopen := checkOpen_eq_ok.2 hclosed
  have hidle := isConnected_eq_false.2 hcurrent
  rw [connect, hopen]
  simp only [hidle, Bool.false_eq_true, if_false]
  split
  · exact .inl ⟨rfl, rfl, rfl⟩
  · obtain ⟨found, w', hrefresh, -⟩ | ⟨cause, w', hrefresh, -⟩ := c.openSession.refresh_cases w
    · rw [hrefresh]
      exact .inl ⟨rfl, rfl, rfl⟩
    · rw [hrefresh]
      exact .inr ⟨cause, rfl, rfl⟩

theorem opens_of_fresh (hclosed : c.closed = false) (hcurrent : c.current = none) (w : Wire)
    (hs : s.Connects) : c.Opens w s := by
  obtain ⟨a, hstep⟩ := step_of_connects hs
  obtain ⟨hok, hsessions, huses⟩ | ⟨cause, herror, hclient⟩ := connect_cases w hclosed hcurrent
  · refine ⟨?_, ?_⟩
    · rw [hstep, hsessions, hok]
      rfl
    · rw [hstep, huses, hok]
      rfl
  · refine ⟨?_, ?_⟩
    · rw [hstep, hclient, herror, closeSession_openSession]
      rfl
    · rw [hstep, hclient, herror, closeSession_openSession]
      rfl

/-- Connecting a client that is connected does nothing. -/
theorem step_of_isConnected (hclosed : c.closed = false) (hconnected : c.isConnected = true)
    (w : Wire) (hs : s.Connects) : ∃ a, c.step w s = (.ok a, c, w) := by
  obtain ⟨a, hstep⟩ := step_of_connects hs
  refine ⟨a, ?_⟩
  rw [hstep, connect, checkOpen_eq_ok.2 hclosed]
  simp only [hconnected, if_true]
  rfl

/-- A client that fails to connect was closed, or it was open and not connected. -/
theorem fails_of_connects {cause : ClientError} (hs : s.Connects)
    (h : c.step w s = (.error cause, c', w')) :
    c.closed = true ∧ cause = .closed ∨ c.closed = false ∧ c.current = none := by
  cases hclosed : c.closed with
  | true =>
    have hopen := checkOpen_of_closed hclosed
    obtain ⟨a, hstep⟩ := step_of_connects hs
    rw [hstep, connect, hopen] at h
    cases h
    exact .inl ⟨rfl, rfl⟩
  | false =>
    refine .inr ⟨rfl, isConnected_eq_false.1 (Bool.eq_false_iff.2 fun hconnected => ?_)⟩
    obtain ⟨a, hstep⟩ := step_of_isConnected hclosed hconnected w hs
    rw [hstep] at h
    cases h

/-- What only a connected client can do fails on one that is open and not connected, before anything
is encoded or sent. -/
theorem step_of_unconnected (hclosed : c.closed = false) (hidle : c.isConnected = false) (w : Wire)
    (hs : s.Tells ∨ s.submission?.isSome) : c.step w s = (.error .notConnected, c, w) := by
  have hcheck : c.checkConnected = .error .notConnected := by
    simp [checkConnected, hclosed, hidle]
  have hsubmit (op : Operation) (statements : Value) (queue : Bool) :
      c.submit op statements queue w = (.error .notConnected, w) := by
    rw [submit, hcheck]
  obtain (rfl | rfl) | hs := hs
  · simp [step, tell, hcheck]
  · simp [step, tell, hcheck]
  · cases s with
    | batch op statements raiseErrors => simp [step, run, hsubmit, Except.map]
    | single op statement => simp [step, run, hsubmit, Except.map]
    | queue statements => simp [step, enqueue, hsubmit, Except.map]
    | _ => cases hs

/-- In every state that a client comes to, at most one of the sessions that it ever opened is open,
there is one exactly while it is connected, and none if it is closed. Where it fails to connect all
its sessions are closed, and unless it was closed for good, it opens a fresh one when it is asked to
connect again. It opens none while it is connected; and while it is open and not connected, it
refuses whatever needs a session and sends nothing. -/
theorem sessions_of_performAll {url : String} {o : Options} {n : Network} {ss : List Step}
    {reports : List Report} (h : create url o n = .ok (c, w))
    (hrun : c.performAll w ss = (reports, c', w')) :
    (c'.sessions.filter fun session => !session.closed).length ≤ 1 ∧
      (c'.isConnected = true ↔ ∃ session ∈ c'.sessions, session.closed = false) ∧
      (c'.closed = true → ∀ session ∈ c'.sessions, session.closed = true) ∧
      (c'.closed = false → c'.isConnected = false → ∀ v s, s.Connects → c'.Opens v s) ∧
      (∀ v s cause c'' v', s.Connects → c'.step v s = (.error cause, c'', v') →
        (∀ session ∈ c''.sessions, session.closed = true) ∧ c''.isConnected = false ∧
          (c''.closed = true ∧ cause = .closed ∨ ∀ u t, t.Connects → c''.Opens u t)) ∧
      (c'.isConnected = true → ∀ v s, s.Connects → ∃ a, c'.step v s = (.ok a, c', v)) ∧
      (c'.closed = false → c'.isConnected = false → ∀ v s, (s.Tells ∨ s.submission?.isSome) →
        c'.step v s = (.error .notConnected, c', v)) := by
  have htidy := tidy_of_create_performAll h ss
  rw [hrun] at htidy
  refine ⟨htidy.length_filter_le, htidy.isConnected_iff, fun hclosed => ?_,
    fun hclosed hidle v s hs => opens_of_fresh hclosed (isConnected_eq_false.1 hidle) v hs, ?_,
    fun hconnected v s hs => ?_, fun hclosed hidle v s hs => step_of_unconnected hclosed hidle v hs⟩
  · exact htidy.forall_closed (htidy.isConnected_of_closed hclosed)
  · intro v s cause c'' v' hs hfails
    have hsame := sameState_of_step_eq_error hfails
    have hturn := c'.turn_step v s
    rw [hfails] at hturn
    have htidy' := htidy.turn hturn
    -- the client fails as it was, so it was not connected before and is not now
    obtain ⟨hclosed, hcause⟩ | ⟨hclosed, hcurrent⟩ := fails_of_connects hs hfails
    · have hidle : c''.isConnected = false :=
        htidy'.isConnected_of_closed (hsame.closed.trans hclosed)
      exact ⟨htidy'.forall_closed hidle, hidle, .inl ⟨hsame.closed.trans hclosed, hcause⟩⟩
    · have hidle : c''.isConnected = false := isConnected_eq_false.2 (hsame.current.trans hcurrent)
      exact ⟨htidy'.forall_closed hidle, hidle, .inr fun u t ht =>
        opens_of_fresh (hsame.closed.trans hclosed) (hsame.current.trans hcurrent) u ht⟩
  · cases hclosed : c'.closed with
    | true =>
      rw [htidy.isConnected_of_closed hclosed] at hconnected
      cases hconnected
    | false => exact step_of_isConnected hclosed hconnected v hs

/-- A node that gives its document only when it is asked for the second time. -/
def hesitant : Network :=
  [("a1:4001", [("/nodes", [.answer 503 none [], .answer 200 none
    "[\x7b\"api_addr\":\"a1:4001\",\"leader\":true\x7d]".toUTF8.toList])])]

/-- The session of the first attempt is closed, and the second attempt has one of its own. -/
theorem sessions_of_performAll_retried :
    ∃ c w reports c' w', create "http://a1:4001" {} hesitant = .ok (c, w) ∧
      c.performAll w [.connect, .connect] = (reports, c', w') ∧
      c'.sessions.map (·.closed) = [true, false] ∧
      (c'.sessions.filter fun session => !session.closed).length ≤ 1 ∧
      ∃ a, c'.step w' .enter = (.ok a, c', w') := by
  have hsessions : (create "http://a1:4001" {} hesitant).toOption.map (fun (c, w) =>
      ((c.performAll w [.connect, .connect]).2.1.sessions.map (·.closed),
        (c.performAll w [.connect, .connect]).2.1.isConnected)) =
      some ([true, false], true) := by decide +kernel
  rcases hcreate : create "http://a1:4001" {} hesitant with cause | ⟨c, w⟩
  · rw [hcreate] at hsessions
    cases hsessions
  · rcases hrun : c.performAll w [.connect, .connect] with ⟨reports, c', w'⟩
    rw [hcreate] at hsessions
    simp only [Except.toOption, Option.map_some, Option.some.injEq, Prod.mk.injEq, hrun]
      at hsessions
    obtain ⟨hone, -, -, -, -, hagain, -⟩ := sessions_of_performAll hcreate hrun
    exact ⟨c, w, reports, c', w', rfl, hrun, hsessions.1, hone,
      hagain hsessions.2 w' .enter (.inr rfl)⟩

end SqlCluster.Client
