import SqlCluster.Proofs.Client.Turn

/-!
The life of a client. A step that fails leaves a client as it was before it, whatever had been done
until then (`Turn.sameState`), and so does a run of such steps. Once closed, a client stays as it is
for good: it tells what it holds, refuses all else and sends nothing (`performAll_of_ended`).
-/

namespace SqlCluster.Client

variable {c c' c'' : Client} {w w' : Wire} {s : Step} {r : Except ClientError Answer}

/-! ### Sessions -/

/-- A session that is opened and closed at once stays behind closed. -/
theorem closeSession_openSession (c : Client) :
    c.openSession.closeSession =
      { c with
        sessions := c.sessions ++ [⟨c.config.maxConnections, c.config.timeout, true⟩]
        current := none } := by
  rw [openSession, closeSession]
  dsimp only
  -- the session in use is the one behind all others
  rw [List.modify_eq_take_cons_drop (by simp)]
  simp

/-! ### Steps that fail -/

/-- A client is as it was before: its configuration, its cluster, whether it is closed and which
session it uses, and all its sessions but for some that it opened and closed in between. -/
structure SameState (c c' : Client) : Prop where
  config : c'.config = c.config
  cluster : c'.cluster = c.cluster
  closed : c'.closed = c.closed
  current : c'.current = c.current
  sessions : ∃ spent, c'.sessions = c.sessions ++ spent ∧ ∀ session ∈ spent, session.closed = true

theorem SameState.refl (c : Client) : c.SameState c := ⟨rfl, rfl, rfl, rfl, [], by simp⟩

theorem SameState.trans (h : c.SameState c') (h' : c'.SameState c'') : c.SameState c'' := by
  obtain ⟨spent, hspent, hclosed⟩ := h.sessions
  obtain ⟨spent', hspent', hclosed'⟩ := h'.sessions
  refine ⟨h'.config.trans h.config, h'.cluster.trans h.cluster, h'.closed.trans h.closed,
    h'.current.trans h.current, spent ++ spent', by rw [hspent', hspent, List.append_assoc], ?_⟩
  intro session hsession
  obtain hsession | hsession := List.mem_append.1 hsession
  · exact hclosed session hsession
  · exact hclosed' session hsession

theorem Turn.sameState {cause : ClientError} (h : c.Turn w s (.error cause) c' w') :
    c.SameState c' := by
  cases h with
  | still | submitted | unrefreshed => exact .refl c
  | unconnected _ _ fresh =>
    -- no session was in use before either, or the client would not have searched
    rw [closeSession_openSession]
    exact ⟨rfl, rfl, rfl, fresh.symm, _, rfl, by simp⟩

/-- A run of steps that fail leaves a client as it was before. -/
theorem sameState_performAll {ss : List Step}
    (h : ∀ report ∈ (c.performAll w ss).1, ∃ cause, report.result = .error cause) :
    c.SameState (c.performAll w ss).2.1 := by
  induction ss generalizing c w with
  | nil => exact .refl c
  | cons s ss ih =>
    simp only [performAll, List.forall_mem_cons] at h
    obtain ⟨⟨cause, hcause⟩, hrest⟩ := h
    have hturn := c.turn_step w s
    rw [show (c.step w s).1 = .error cause from hcause] at hturn
    exact hturn.sameState.trans (ih hrest)

/-- A step that fails, for whatever cause, leaves a client as it was before. -/
theorem sameState_of_step_eq_error {cause : ClientError}
    (h : c.step w s = (.error cause, c', w')) : c.SameState c' := by
  have hturn := c.turn_step w s
  rw [h] at hturn
  exact hturn.sameState

/-- A client of a node, not connected yet. -/
def newcomer : Client := ofConfig { host := "a1" }

/-- Nothing listens: a session was opened when the search for the leader fails. -/
theorem sameState_of_step_eq_error_refused :
    ∃ cause c' w', newcomer.step (.ofNetwork []) .connect = (.error cause, c', w') ∧
      newcomer.SameState c' ∧ c'.sessions.length = 1 := by
  have hfails : (newcomer.step (.ofNetwork []) .connect).1.isOk = false := by decide +kernel
  have hopened : (newcomer.step (.ofNetwork []) .connect).2.1.sessions.length = 1 := by
    decide +kernel
  rcases hstep : newcomer.step (.ofNetwork []) .connect with ⟨r, c', w'⟩
  rw [hstep] at hfails hopened
  cases r with
  | ok a => cases hfails
  | error cause => exact ⟨cause, c', w', rfl, sameState_of_step_eq_error hstep, hopened⟩

/-! ### Clients that are closed -/

/-- What a closed client answers: what it holds, and else only that it is closed. -/
def lastWord (c : Client) : Step → Except ClientError Answer
  | .close | .exit => .ok .done
  | .cluster => .ok (.directory c.cluster)
  | .config => .ok (.config c.config)
  | .connect | .enter | .leader | .peers | .getLevel | .setLevel _ | .setTransactions _
  | .batch .. | .single .. | .queue _ => .error .closed

theorem checkOpen_of_closed (h : c.closed = true) : c.checkOpen = .error .closed := by
  simp [checkOpen, h]

theorem checkConnected_of_closed (h : c.closed = true) : c.checkConnected = .error .closed := by
  simp [checkConnected, h]

theorem submit_of_closed (h : c.closed = true) (op : Operation) (statements : Value) (queue : Bool)
    (w : Wire) : c.submit op statements queue w = (.error .closed, w) := by
  rw [submit, checkConnected_of_closed h]

/-- A step finds a closed client closed before it looks at anything else. -/
theorem step_of_ended (h : c.closed = true) (hcurrent : c.current = none) (w : Wire) (s : Step) :
    ∃ w', c.step w s = (c.lastWord s, c, w') ∧ w.Carried [] w' := by
  have hopen := checkOpen_of_closed h
  have hconnected := checkConnected_of_closed h
  -- closing once more finds no session to close
  have hsame : { c.closeSession with closed := true } = c := by
    rw [closeSession, hcurrent, ← h]
  cases s with
  | connect | enter => exact ⟨w, by simp [step, connect, hopen, lastWord], .nil w⟩
  | close | exit =>
    exact ⟨_, by simp only [step, close, hsame, lastWord], (Wire.Carried.nil w).noteAfter .closing⟩
  | leader | peers => exact ⟨w, by simp [step, tell, hconnected, lastWord], .nil w⟩
  | cluster | config => exact ⟨w, rfl, .nil w⟩
  | getLevel => exact ⟨w, by simp [step, hopen, lastWord, Except.map], .nil w⟩
  | setLevel v => exact ⟨w, by simp [step, setLevel, hopen, lastWord], .nil w⟩
  | setTransactions on => exact ⟨w, by simp [step, hopen, lastWord], .nil w⟩
  | batch | single =>
    exact ⟨w, by simp [step, run, submit_of_closed h, lastWord, Except.map], .nil w⟩
  | queue statements =>
    exact ⟨w, by simp [step, enqueue, submit_of_closed h, lastWord, Except.map], .nil w⟩

/-- A run finds a closed client as the first step did. The client stays the same one from step to
step and only the wire is noted on, so the induction is over all wires. -/
theorem performAll_of_ended (h : c.closed = true) (hcurrent : c.current = none) (w : Wire)
    (ss : List Step) :
    ∃ w', c.performAll w ss = (ss.map fun s => ⟨c.lastWord s, true, []⟩, c, w') ∧
      w.Carried [] w' := by
  induction ss generalizing w with
  | nil => exact ⟨w, rfl, .nil w⟩
  | cons s ss ih =>
    obtain ⟨w₁, hstep, hsilent⟩ := step_of_ended h hcurrent w s
    obtain ⟨w₂, hrun, hsilent'⟩ := ih w₁
    have hsent : w₁.sent = w.sent := by simpa using hsilent.sent
    refine ⟨w₂, ?_, hsilent.append hsilent'⟩
    simp [performAll, perform, hstep, hrun, hsent, h]

/-- Closing is final. The step that closes a client changes neither its configuration nor its
cluster; and whatever the client is asked to do afterwards, over whatever wire, it stays exactly as
it is, sends nothing and refuses all but telling what it holds and closing again. -/
theorem performAll_of_step_ends (hs : s.Ends) (h : c.step w s = (r, c', w')) :
    r = .ok .done ∧ c'.config = c.config ∧ c'.cluster = c.cluster ∧ c'.closed = true ∧
      ∀ (v : Wire) (ss : List Step), ∃ v',
        c'.performAll v ss = (ss.map fun s => ⟨c'.lastWord s, true, []⟩, c', v') ∧
          v'.sent = v.sent := by
  have hclose : c.step w s = (.ok .done, c.close w) := by
    obtain rfl | rfl := hs <;> rfl
  rw [hclose, close, Prod.mk.injEq, Prod.mk.injEq] at h
  obtain ⟨rfl, rfl, rfl⟩ := h
  refine ⟨rfl, config_closeSession c, cluster_closeSession c, rfl, fun v ss => ?_⟩
  obtain ⟨v', hrun, hsilent⟩ := performAll_of_ended
    (c := { c.closeSession with closed := true }) rfl (current_closeSession c) v ss
  exact ⟨v', hrun, by simpa using hsilent.sent⟩

/-- A closed client refuses what could not be encoded or read before it looks at it. -/
theorem performAll_of_step_ends_unencodable :
    ∃ c' w', newcomer.step (.ofNetwork []) .exit = (.ok .done, c', w') ∧
      ∀ v, ∃ v', c'.performAll v
          [.single .query (.object "object"), .setLevel .null, .enter, .close] =
        ([⟨.error .closed, true, []⟩, ⟨.error .closed, true, []⟩, ⟨.error .closed, true, []⟩,
          ⟨.ok .done, true, []⟩], c', v') ∧ v'.sent = v.sent := by
  obtain ⟨-, -, -, -, hrun⟩ := performAll_of_step_ends (c := newcomer) (w := .ofNetwork [])
    (.inr rfl) rfl
  exact ⟨_, _, rfl, fun v => hrun v _⟩

end SqlCluster.Client
