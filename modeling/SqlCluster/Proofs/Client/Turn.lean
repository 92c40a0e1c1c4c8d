import SqlCluster.Client
import SqlCluster.Proofs.Discovery.Search
import SqlCluster.Proofs.Result

/-!
Turns of a client. Whatever a client is asked to do, it takes one of few turns (`Client.Turn`): it
stays as it is, sends statements, changes a setting, opens a session, takes over what a search for
the leader found, gives up because the search failed, or closes. Every step is one of these turns
(`Client.turn_step`), so what every turn keeps, a run keeps (`Client.performAll_induction`).
-/

namespace SqlCluster

namespace Step

/-- A step asks a client to connect. -/
def Connects (s : Step) : Prop := s = .connect ∨ s = .enter

/-- A step asks a client about the cluster. -/
def Tells (s : Step) : Prop := s = .leader ∨ s = .peers

/-- A step asks a client to close. -/
def Ends (s : Step) : Prop := s = .close ∨ s = .exit

/-- The operation in which a step sends statements, and whether it has them queued. -/
def submission? : Step → Option (Operation × Bool)
  | .batch op _ _ | .single op _ => some (op, false)
  | .queue _ => some (.write, true)
  | _ => none

end Step

namespace Client

variable {c c' : Client} {w w' : Wire} {s : Step} {r : Except ClientError Answer}

theorem checkOpen_eq_ok : c.checkOpen = .ok () ↔ c.closed = false := by
  rw [checkOpen]
  cases c.closed <;> simp

theorem checkConnected_eq_ok :
    c.checkConnected = .ok () ↔ c.closed = false ∧ c.isConnected = true := by
  rw [checkConnected]
  cases c.closed <;> cases c.isConnected <;> simp

theorem isConnected_eq_false : c.isConnected = false ↔ c.current = none := by
  rw [isConnected, Option.isSome_eq_false_iff, Option.isNone_iff_eq_none]

@[simp] theorem config_closeSession (c : Client) : c.closeSession.config = c.config := by
  rw [closeSession]
  split <;> rfl

@[simp] theorem cluster_closeSession (c : Client) : c.closeSession.cluster = c.cluster := by
  rw [closeSession]
  split <;> rfl

@[simp] theorem current_closeSession (c : Client) : c.closeSession.current = none := by
  rw [closeSession]
  split
  · rfl
  next hcurrent => exact hcurrent

/-- What a client does in a step: what it answers, and what becomes of it and of the wire. Where it
is `still`, it refuses or tells what it holds. -/
inductive Turn (c : Client) (w : Wire) : Step → Except ClientError Answer → Client → Wire → Prop
  | still {s : Step} {r : Except ClientError Answer} {w' : Wire} (silent : w.Carried [] w') :
      Turn c w s r c w'
  | submitted {s : Step} {r : Except ClientError Answer} {op : Operation} {queue : Bool}
      {body : String} {vs : List Visit} {response : Except DispatchError (List UInt8)} {w' : Wire}
      (unclosed : c.closed = false) (submits : s.submission? = some (op, queue))
      (statements : op.takesStatements = true)
      (transcript : Call.Transcript ⟨c.config, op, some body, queue⟩ c.cluster w vs response w') :
      Turn c w s r c w'
  | leveled {v : Value} {level : Level} {w' : Wire} (unclosed : c.closed = false)
      (named : Level.ofValue v = .ok level) (silent : w.Carried [] w') :
      Turn c w (.setLevel v) (.ok .done) { c with config := { c.config with level := level } } w'
  | switched {on : Bool} {w' : Wire} (unclosed : c.closed = false) (silent : w.Carried [] w') :
      Turn c w (.setTransactions on) (.ok .done)
        { c with config := { c.config with transactions := on } } w'
  | opened {s : Step} {a : Answer} {w' : Wire} (unclosed : c.closed = false)
      (connects : s.Connects) (fresh : c.current = none) (off : c.config.disableDiscovery = true)
      (silent : w.Carried [] w') : Turn c w s (.ok a) c.openSession w'
  | connected {s : Step} {a : Answer} {found : Directory} {w' : Wire} (unclosed : c.closed = false)
      (connects : s.Connects) (fresh : c.current = none) (on : c.config.disableDiscovery = false)
      (search : Discovery.Search c.config c.cluster w (.ok found) w') :
      Turn c w s (.ok a) { c.openSession with cluster := found } w'
  | unconnected {s : Step} {cause : DiscoveryError} {w' : Wire} (unclosed : c.closed = false)
      (connects : s.Connects) (fresh : c.current = none) (on : c.config.disableDiscovery = false)
      (search : Discovery.Search c.config c.cluster w (.error cause) w') :
      Turn c w s (.error (.discovery cause)) c.openSession.closeSession w'
  | refreshed {s : Step} {a : Answer} {found : Directory} {w' : Wire} (unclosed : c.closed = false)
      (tells : s.Tells) (on : c.config.disableDiscovery = false)
      (search : Discovery.Search c.config c.cluster w (.ok found) w') :
      Turn c w s (.ok a) { c with cluster := found } w'
  | unrefreshed {s : Step} {cause : DiscoveryError} {w' : Wire} (unclosed : c.closed = false)
      (tells : s.Tells) (on : c.config.disableDiscovery = false)
      (search : Discovery.Search c.config c.cluster w (.error cause) w') :
      Turn c w s (.error (.discovery cause)) c w'
  | ended {s : Step} {w' : Wire} (ends : s.Ends) (silent : w.Carried [] w') :
      Turn c w s (.ok .done) { c.closeSession with closed := true } w'

theorem Turn.noteAfter (n : Note) (h : c.Turn w s r c' w') : c.Turn w s r c' (w'.note n) := by
  cases h with
  | still silent => exact .still (silent.noteAfter n)
  | submitted unclosed submits statements transcript =>
    exact .submitted unclosed submits statements (transcript.noteAfter n)
  | leveled unclosed named silent => exact .leveled unclosed named (silent.noteAfter n)
  | switched unclosed silent => exact .switched unclosed (silent.noteAfter n)
  | opened unclosed connects fresh off silent =>
    exact .opened unclosed connects fresh off (silent.noteAfter n)
  | connected unclosed connects fresh on search =>
    exact .connected unclosed connects fresh on (search.noteAfter n)
  | unconnected unclosed connects fresh on search =>
    exact .unconnected unclosed connects fresh on (search.noteAfter n)
  | refreshed unclosed tells on search => exact .refreshed unclosed tells on (search.noteAfter n)
  | unrefreshed unclosed tells on search =>
    exact .unrefreshed unclosed tells on (search.noteAfter n)
  | ended ends silent => exact .ended ends (silent.noteAfter n)

/-! ### What each step does -/

/-- Looking for the cluster is a search for its leader. -/
theorem refresh_cases (c : Client) (w : Wire) :
    (∃ found w', c.refresh w = (.ok { c with cluster := found }, w') ∧
      Discovery.Search c.config c.cluster w (.ok found) w') ∨
    ∃ cause w', c.refresh w = (.error (.discovery cause), w') ∧
      Discovery.Search c.config c.cluster w (.error cause) w' := by
  have hsearch := Discovery.search_discover c.config c.cluster w
  rw [refresh]
  split
  next cause w₁ hdiscover =>
    rw [hdiscover] at hsearch
    exact .inr ⟨cause, w₁, rfl, hsearch⟩
  next found w₁ hdiscover =>
    rw [hdiscover] at hsearch
    exact .inl ⟨found, _, rfl, hsearch.noteAfter _⟩

theorem step_connect (c : Client) (w : Wire) :
    c.step w .connect = ((c.connect w).1.map fun () => .done, (c.connect w).2) := by
  rw [step]
  rcases c.connect w with ⟨_ | _, _, _⟩ <;> rfl

theorem step_enter (c : Client) (w : Wire) :
    c.step w .enter = ((c.connect w).1.map fun () => .entered, (c.connect w).2) := by
  rw [step]
  rcases c.connect w with ⟨_ | _, _, _⟩ <;> rfl

/-- Both steps that ask a client to connect connect it, and differ in what it answers. -/
theorem step_of_connects (hs : s.Connects) :
    ∃ a, ∀ c w, Client.step c w s = ((c.connect w).1.map fun () => a, (c.connect w).2) := by
  obtain rfl | rfl := hs
  · exact ⟨.done, step_connect⟩
  · exact ⟨.entered, step_enter⟩

theorem turn_connect (hs : s.Connects) (a : Answer) :
    c.Turn w s ((c.connect w).1.map fun () => a) (c.connect w).2.1 (c.connect w).2.2 := by
  rw [connect]
  split
  · exact .still (.nil w)
  next hopen =>
    have hclosed := checkOpen_eq_ok.1 hopen
    split
    · exact .still (.nil w)
    next hfresh =>
      have hcurrent := isConnected_eq_false.1 (Bool.eq_false_iff.2 hfresh)
      split
      next hoff => exact .opened hclosed hs hcurrent hoff ((Wire.Carried.nil w).noteAfter _)
      next hon =>
        have hdiscovers := Bool.eq_false_iff.2 hon
        obtain ⟨found, w₁, hrefresh, hsearch⟩ | ⟨cause, w₁, hrefresh, hsearch⟩ :=
          c.openSession.refresh_cases w
        · rw [hrefresh]
          exact .connected hclosed hs hcurrent hdiscovers hsearch
        · rw [hrefresh]
          exact .unconnected hclosed hs hcurrent hdiscovers hsearch

theorem turn_tell (hs : s.Tells) (answer : Directory → Answer) :
    c.Turn w s (c.tell w answer).1 (c.tell w answer).2.1 (c.tell w answer).2.2 := by
  rw [tell]
  split
  · exact .still (.nil w)
  next hconnected =>
    have hclosed := (checkConnected_eq_ok.1 hconnected).1
    split
    · exact .still (.nil w)
    next hon =>
      have hdiscovers := Bool.eq_false_iff.2 hon
      obtain ⟨found, w₁, hrefresh, hsearch⟩ | ⟨cause, w₁, hrefresh, hsearch⟩ := c.refresh_cases w
      · rw [hrefresh]
        exact .refreshed hclosed hs hdiscovers hsearch
      · rw [hrefresh]
        exact .unrefreshed hclosed hs hdiscovers hsearch

theorem takesStatements_of_encode {op : Operation} {statements : Value} {batch : List Statement}
    {body : List Char} (h : encode op statements = .ok (batch, body)) :
    op.takesStatements = true := by
  simp only [encode, bind_eq_ok] at h
  obtain ⟨_, _, _, hbody, _⟩ := h
  rw [Statement.encodeBatch] at hbody
  split at hbody
  · cases hbody
  next hop => simpa using hop

/-- Sending statements is a call to the cluster, or nothing. -/
theorem turn_submit {op : Operation} {queue : Bool} (hs : s.submission? = some (op, queue))
    (statements : Value) : c.Turn w s r c (c.submit op statements queue w).2 := by
  rw [submit]
  split
  · exact .still (.nil w)
  next hconnected =>
    have hclosed := (checkConnected_eq_ok.1 hconnected).1
    split
    · exact .still (.nil w)
    next batch body hencode =>
      obtain ⟨vs, htranscript⟩ := Call.exists_transcript
        ⟨c.config, op, some (String.ofList body), queue⟩ c.cluster
        (w.note (.submitting op batch.length))
      have hturn := Turn.submitted (r := r) hclosed hs (takesStatements_of_encode hencode)
        htranscript.noteBefore
      dsimp only
      split
      next hdispatch => rwa [hdispatch] at hturn
      next hdispatch => rwa [hdispatch] at hturn

theorem turn_run {op : Operation} (hs : s.submission? = some (op, false)) (statements : Value)
    (raiseErrors : Bool) : c.Turn w s r c (c.run op statements raiseErrors w).2 := by
  have hsubmit := turn_submit (c := c) (w := w) (r := r) hs statements
  rw [run]
  split
  next hresult => rwa [hresult] at hsubmit
  next hresult =>
    rw [hresult] at hsubmit
    split
    · exact hsubmit
    · split
      · split
        · exact hsubmit.noteAfter _
        · exact hsubmit.noteAfter _
      · exact hsubmit.noteAfter _

theorem turn_enqueue (hs : s.submission? = some (.write, true)) (statements : Value) :
    c.Turn w s r c (c.enqueue statements w).2 := by
  have hsubmit := turn_submit (c := c) (w := w) (r := r) hs statements
  rw [enqueue]
  split
  next hresult => rwa [hresult] at hsubmit
  next hresult =>
    rw [hresult] at hsubmit
    split <;> exact hsubmit

theorem exists_of_setLevel {v : Value} (h : c.setLevel v = .ok c') :
    c.closed = false ∧ ∃ level, Level.ofValue v = .ok level ∧
      c' = { c with config := { c.config with level := level } } := by
  rw [setLevel] at h
  split at h
  · cases h
  next hopen =>
    refine ⟨checkOpen_eq_ok.1 hopen, ?_⟩
    split at h
    next config hset =>
      cases h
      rw [Config.setLevel] at hset
      split at hset
      next level hlevel =>
        cases hset
        exact ⟨level, hlevel, rfl⟩
      · cases hset
    · cases h

/-- Every step is a turn. -/
theorem turn_step (c : Client) (w : Wire) (s : Step) :
    c.Turn w s (c.step w s).1 (c.step w s).2.1 (c.step w s).2.2 := by
  cases s with
  | connect =>
    rw [step_connect]
    exact turn_connect (.inl rfl) .done
  | enter =>
    rw [step_enter]
    exact turn_connect (.inr rfl) .entered
  | close => exact .ended (.inl rfl) ((Wire.Carried.nil w).noteAfter _)
  | exit => exact .ended (.inr rfl) ((Wire.Carried.nil w).noteAfter _)
  | leader => exact turn_tell (.inl rfl) _
  | peers => exact turn_tell (.inr rfl) _
  | cluster | config | getLevel => exact .still (.nil w)
  | setLevel v =>
    rw [step]
    split
    next hset =>
      obtain ⟨hclosed, level, hlevel, rfl⟩ := exists_of_setLevel hset
      exact .leveled hclosed hlevel (.nil w)
    next => exact .still (.nil w)
  | setTransactions on =>
    rw [step]
    split
    next hopen => exact .switched (checkOpen_eq_ok.1 hopen) (.nil w)
    next => exact .still (.nil w)
  | batch op statements raiseErrors => exact turn_run rfl statements raiseErrors
  | single op statement => exact turn_run rfl _ true
  | queue statements => exact turn_enqueue rfl statements

/-! ### Runs -/

/-- What every turn keeps, a run keeps. -/
theorem performAll_induction {P : Client → Wire → Prop}
    (hturn : ∀ {c c' : Client} {w w' : Wire} {s : Step} {r : Except ClientError Answer},
      c.Turn w s r c' w' → P c w → P c' w')
    (h : P c w) (ss : List Step) : P (c.performAll w ss).2.1 (c.performAll w ss).2.2 := by
  induction ss generalizing c w with
  | nil => exact h
  | cons s ss ih => exact ih (hturn (c.turn_step w s) h)

end Client

end SqlCluster
