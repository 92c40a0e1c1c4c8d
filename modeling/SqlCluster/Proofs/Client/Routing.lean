import SqlCluster.Proofs.Client.Query
import SqlCluster.Proofs.Client.Snapshot

/-!
Where statements go, and how they are run. Both follow from what a client was asked to do before:
the settings are the last ones that it was given and took (`config_performAll`), and the directory
is the one that its last successful search found (`cluster_performAll`). So the requests of a step
are those of a call to that directory under those settings (`Routed`).
-/

namespace SqlCluster.Client

variable {c c' : Client} {w w' : Wire} {s : Step} {r : Except ClientError Answer}

/-! ### The past of a client -/

/-- A moment in the life of a client: what it is asked to do, and over which wire. -/
structure Moment where
  client : Client
  wire : Wire
  step : Step

namespace Moment

/-- What the client answers. -/
def result (m : Moment) : Except ClientError Answer := (m.client.step m.wire m.step).1

/-- The client afterwards. -/
def after (m : Moment) : Client := (m.client.step m.wire m.step).2.1

/-- The level that the client was set to, if it was asked to and did so. -/
def level? (m : Moment) : Option Level :=
  match m.step with
  | .setLevel v => if m.result.isOk then (Level.ofValue v).toOption else none
  | _ => none

/-- Whether transactions were switched on or off, if the client was asked to and did so. -/
def transactions? (m : Moment) : Option Bool :=
  match m.step with
  | .setTransactions on => if m.result.isOk then some on else none
  | _ => none

/-- Whether the client looks for the leader: it is open and may discover its cluster, and it is
asked to connect and is not connected, or it is asked about the cluster and is connected. -/
def searches (m : Moment) : Bool :=
  !m.client.closed && !m.client.config.disableDiscovery &&
    match m.step with
    | .connect | .enter => !m.client.isConnected
    | .leader | .peers => m.client.isConnected
    | _ => false

/-- The directory that the client found, if it looked for the leader and succeeded. -/
def found? (m : Moment) : Option Directory :=
  if m.searches then
    (Discovery.discover m.client.config m.client.cluster m.wire).1.toOption
  else none

/-- The last of what moments have, or what was there before them if none of them has any. -/
def latest {α : Type} (f : Moment → Option α) (initial : α) (ms : List Moment) : α :=
  (ms.filterMap f).getLast?.getD initial

theorem latest_cons {α : Type} (f : Moment → Option α) (initial : α) (m : Moment)
    (ms : List Moment) : latest f initial (m :: ms) = latest f ((f m).getD initial) ms := by
  rw [latest, latest, List.filterMap_cons]
  cases f m with
  | none => rfl
  | some a => rw [List.getLast?_cons, Option.getD_some, Option.getD_some]

end Moment

/-- The moments of a run. -/
def moments (c : Client) (w : Wire) : List Step → List Moment
  | [] => []
  | s :: ss => ⟨c, w, s⟩ :: moments (c.step w s).2.1 (c.step w s).2.2 ss

/-! ### Settings -/

theorem Turn.config_eq (h : c.Turn w s r c' w') (hlevel : ∀ v, s ≠ .setLevel v)
    (htransactions : ∀ on, s ≠ .setTransactions on) : c'.config = c.config := by
  cases h with
  | still | submitted | opened | connected | refreshed | unrefreshed => rfl
  | unconnected => exact config_closeSession c.openSession
  | ended => exact config_closeSession c
  | leveled => exact absurd rfl (hlevel _)
  | switched => exact absurd rfl (htransactions _)

theorem step_setLevel_cases (c : Client) (w : Wire) (v : Value) :
    (∃ level, Level.ofValue v = .ok level ∧ c.step w (.setLevel v) =
        (.ok .done, { c with config := { c.config with level := level } }, w)) ∨
      ∃ cause, c.step w (.setLevel v) = (.error cause, c, w) := by
  rw [step]
  split
  next hset =>
    obtain ⟨-, level, hlevel, rfl⟩ := exists_of_setLevel hset
    exact .inl ⟨level, hlevel, rfl⟩
  next cause _ => exact .inr ⟨cause, rfl⟩

theorem step_setTransactions_cases (c : Client) (w : Wire) (on : Bool) :
    c.step w (.setTransactions on) =
        (.ok .done, { c with config := { c.config with transactions := on } }, w) ∨
      ∃ cause, c.step w (.setTransactions on) = (.error cause, c, w) := by
  rw [step]
  split
  · exact .inl rfl
  next cause _ => exact .inr ⟨cause, rfl⟩

/-- A step changes no more of a configuration than the setting that the client takes. -/
theorem config_after (m : Moment) :
    m.after.config =
      { m.client.config with
        level := m.level?.getD m.client.config.level
        transactions := m.transactions?.getD m.client.config.transactions } := by
  obtain ⟨c, w, s⟩ := m
  cases s with
  | setLevel v =>
    obtain ⟨level, hlevel, hstep⟩ | ⟨cause, hstep⟩ := c.step_setLevel_cases w v
    · simp only [Moment.after, Moment.level?, Moment.transactions?, Moment.result, hstep, hlevel]
      rfl
    · simp only [Moment.after, Moment.level?, Moment.transactions?, Moment.result, hstep]
      rfl
  | setTransactions on =>
    obtain hstep | ⟨cause, hstep⟩ := c.step_setTransactions_cases w on
    · simp only [Moment.after, Moment.level?, Moment.transactions?, Moment.result, hstep]
      rfl
    · simp only [Moment.after, Moment.level?, Moment.transactions?, Moment.result, hstep]
      rfl
  | _ => exact (c.turn_step w _).config_eq nofun nofun

/-- The settings of a client are the last ones that it took. -/
theorem config_performAll (c : Client) (w : Wire) (ss : List Step) :
    (c.performAll w ss).2.1.config =
      { c.config with
        level := Moment.latest Moment.level? c.config.level (c.moments w ss)
        transactions := Moment.latest Moment.transactions? c.config.transactions
          (c.moments w ss) } := by
  induction ss generalizing c w with
  | nil => rfl
  | cons s ss ih =>
    have hstep := config_after ⟨c, w, s⟩
    rw [moments, Moment.latest_cons, Moment.latest_cons]
    refine (ih (c.step w s).2.1 (c.step w s).2.2).trans ?_
    rw [show (c.step w s).2.1.config = _ from hstep]

/-! ### The directory -/

theorem cluster_connect (c : Client) (w : Wire) :
    (c.connect w).2.1.cluster =
      (if !c.closed && !c.config.disableDiscovery && !c.isConnected then
        (Discovery.discover c.config c.cluster w).1.toOption else none).getD c.cluster := by
  rw [connect, checkOpen]
  cases c.closed with
  | true => rfl
  | false =>
    cases c.isConnected with
    | true => simp
    | false =>
      cases hoff : c.config.disableDiscovery with
      | true => rfl
      | false =>
        simp only [refresh, openSession]
        rcases Discovery.discover c.config c.cluster w with ⟨cause | found, w'⟩
        · exact cluster_closeSession c.openSession
        · rfl

theorem cluster_tell (c : Client) (w : Wire) (answer : Directory → Answer) :
    (c.tell w answer).2.1.cluster =
      (if !c.closed && !c.config.disableDiscovery && c.isConnected then
        (Discovery.discover c.config c.cluster w).1.toOption else none).getD c.cluster := by
  rw [tell, checkConnected]
  cases c.closed with
  | true => rfl
  | false =>
    cases c.isConnected with
    | false => simp
    | true =>
      cases hoff : c.config.disableDiscovery with
      | true => rfl
      | false =>
        simp only [refresh]
        rcases Discovery.discover c.config c.cluster w with ⟨cause | found, w'⟩
        · rfl
        · rfl

/-- The directory of a client is the one that it has just found, if it looked for the leader and
succeeded, and else the one from before. -/
theorem cluster_after (m : Moment) : m.after.cluster = m.found?.getD m.client.cluster := by
  obtain ⟨c, w, s⟩ := m
  have hother (hs : ¬ (s.Connects ∨ s.Tells)) : (c.step w s).2.1.cluster = c.cluster :=
    (c.turn_step w s).cluster_cases.resolve_right fun h => hs h.1
  cases s with
  | connect =>
    rw [Moment.after, step_connect]
    exact cluster_connect c w
  | enter =>
    rw [Moment.after, step_enter]
    exact cluster_connect c w
  | leader | peers => exact cluster_tell c w _
  | _ =>
    refine (hother ?_).trans ?_
    · rintro ((h | h) | h | h) <;> cases h
    · simp [Moment.found?, Moment.searches]

/-- The directory of a client is the one that it found last. -/
theorem cluster_performAll (c : Client) (w : Wire) (ss : List Step) :
    (c.performAll w ss).2.1.cluster = Moment.latest Moment.found? c.cluster (c.moments w ss) := by
  induction ss generalizing c w with
  | nil => rfl
  | cons s ss ih =>
    have hstep := cluster_after ⟨c, w, s⟩
    rw [moments, Moment.latest_cons]
    refine (ih (c.step w s).2.1 (c.step w s).2.2).trans ?_
    rw [show (c.step w s).2.1.cluster = _ from hstep]

/-! ### Requests -/

/-- A step that is to send statements sends none, or makes a call to the cluster that the client
knows. -/
theorem Turn.submission_cases {op : Operation} {queue : Bool} (h : c.Turn w s r c' w')
    (hs : s.submission? = some (op, queue)) :
    w.Carried [] w' ∨ op.takesStatements = true ∧ ∃ body vs response,
      Call.Transcript ⟨c.config, op, some body, queue⟩ c.cluster w vs response w' := by
  have hconnects : ¬ s.Connects := by
    rintro (rfl | rfl) <;> cases hs
  have htells : ¬ s.Tells := by
    rintro (rfl | rfl) <;> cases hs
  have hends : ¬ s.Ends := by
    rintro (rfl | rfl) <;> cases hs
  cases h with
  | still silent => exact .inl silent
  | submitted _ submits statements transcript =>
    rw [hs, Option.some.injEq, Prod.mk.injEq] at submits
    obtain ⟨rfl, rfl⟩ := submits
    exact .inr ⟨statements, _, _, _, transcript⟩
  | leveled | switched => cases hs
  | opened _ connects | connected _ connects | unconnected _ connects =>
    exact absurd connects hconnects
  | refreshed _ tells | unrefreshed _ tells => exact absurd tells htells
  | ended ends => exact absurd ends hends

/-- Statements were posted in a call to the peers of a directory. All that was sent was posted in
the visits of the call: to the peers in their order, with the replies that the network gave, and
first of all to the leader. Every visit begins at the URL of the operation at its peer, which has
the settings in its query, and goes on only where a reply redirects it to. -/
structure Routed (config : Config) (op : Operation) (queue : Bool) (d : Directory)
    (settings : String) (w w' : Wire) (body : String) (vs : List Visit)
    (response : Except DispatchError (List UInt8)) : Prop where
  transcript : Call.Transcript ⟨config, op, some body, queue⟩ d w vs response w'
  sent : w'.sent = w.sent ++ (vs.flatMap (·.exchanges)).map fun e => .post e.url (some body)
  first : ∀ q, (w'.sent.drop w.sent.length).head? = some q → ∃ p target, d.leader = some p ∧
    config.requestUrl? op p queue = some target ∧ q = .post target (some body)
  visits : ∀ v ∈ vs, ∃ start behind, v.exchanges = start :: behind ∧
    config.requestUrl? op v.peer queue = some start.url ∧
    String.ofList start.url.query = settings ∧
    (start :: behind).IsChain (Call.Follows ⟨config, op, some body, queue⟩)

/-- A call of statements is routed by its configuration and its directory. -/
theorem routed_of_transcript {config : Config} {op : Operation} {body : String} {queue : Bool}
    {d : Directory} {vs : List Visit} {response : Except DispatchError (List UInt8)}
    (h : Call.Transcript ⟨config, op, some body, queue⟩ d w vs response w')
    (hop : op.takesStatements = true) (hleader : ∃ p, d.leader = some p) :
    Routed config op queue d (settingsText config.level config.transactions queue) w w' body vs
      response := by
  have hsent : w'.sent =
      w.sent ++ (vs.flatMap (·.exchanges)).map fun e => .post e.url (some body) := by
    rw [h.exchanged.sent]
    simp [Request.of, hop]
  have hvisits (v : Visit) (hv : v ∈ vs) : ∃ start behind, v.exchanges = start :: behind ∧
      config.requestUrl? op v.peer queue = some start.url ∧
      String.ofList start.url.query = settingsText config.level config.transactions queue ∧
      (start :: behind).IsChain (Call.Follows ⟨config, op, some body, queue⟩) := by
    obtain ⟨url, hurl, hstart, hfollows, -⟩ := h.visits v hv
    cases hexchanges : v.exchanges with
    | nil => simp [hexchanges] at hstart
    | cons start behind =>
      rw [hexchanges] at hstart hfollows
      obtain rfl : start.url = url := by simpa using hstart
      exact ⟨start, behind, rfl, hurl, by rw [query_of_requestUrl? hurl hop, String.ofList_toList],
        hfollows⟩
  refine ⟨h, hsent, fun q hq => ?_, hvisits⟩
  obtain ⟨p, hp⟩ := hleader
  cases vs with
  | nil => simp [hsent] at hq
  | cons v vs =>
    obtain ⟨start, behind, hexchanges, hurl, -, -⟩ := hvisits v (by simp)
    -- the leader is the first of the peers
    have hpeer : v.peer = p := h.first_peer (Directory.head?_peers hp)
    refine ⟨p, start.url, hp, hpeer ▸ hurl, ?_⟩
    simpa [hsent, hexchanges] using hq.symm

/-- Where the statements of a step go, and how they are run, is told by all steps before it. The
settings are the last ones that the client was given and took, and no other step changes them. The
step sends nothing, or it calls the directory that the last successful search found, which is the
node of the connection URL if there was none: the first request is posted to its leader, and every
request has the settings in its query, except where it follows a redirect. -/
theorem routed_of_performAll {url : String} {o : Options} {n : Network} {ss : List Step}
    {reports : List Report} (h : create url o n = .ok (c, w))
    (hrun : c.performAll w ss = (reports, c', w')) :
    let level := Moment.latest Moment.level? c.config.level (c.moments w ss)
    let transactions := Moment.latest Moment.transactions? c.config.transactions (c.moments w ss)
    let cluster :=
      Moment.latest Moment.found? (.seed ⟨c.config.host, c.config.port⟩) (c.moments w ss)
    c'.config = { c.config with level := level, transactions := transactions } ∧
      c'.cluster = cluster ∧
      (∀ v s, Moment.level? ⟨c', v, s⟩ = none → Moment.transactions? ⟨c', v, s⟩ = none →
        (c'.step v s).2.1.config = c'.config) ∧
      ∀ s op queue r c'' w'', s.submission? = some (op, queue) → c'.step w' s = (r, c'', w'') →
        w'.Carried [] w'' ∨ ∃ body vs response, Routed c'.config op queue cluster
          (settingsText level transactions queue) w' w'' body vs response := by
  intro level transactions cluster
  have hconfig := c.config_performAll w ss
  have hcluster := c.cluster_performAll w ss
  have hheld := isHeld_of_create_performAll h ss
  rw [hrun] at hconfig hcluster hheld
  rw [show c.cluster = .seed ⟨c.config.host, c.config.port⟩ by rw [(eq_of_create h).1]; rfl]
    at hcluster
  refine ⟨hconfig, hcluster, fun v s hlevel htransactions => ?_, ?_⟩
  · refine (config_after ⟨c', v, s⟩).trans ?_
    rw [hlevel, htransactions]
    rfl
  · intro s op queue r c'' w'' hs hstep
    have hturn := c'.turn_step w' s
    rw [hstep] at hturn
    refine (hturn.submission_cases hs).imp_right ?_
    rintro ⟨hop, body, vs, response, htranscript⟩
    have hrouted := routed_of_transcript htranscript hop hheld.exists_leader
    rw [hcluster, hconfig] at hrouted
    rw [hconfig]
    exact ⟨body, vs, response, hrouted⟩

/-- What a client is told to do before it queues writes: to be strict, to be lax, which it refuses,
to leave transactions out, and to look for the leader. -/
def preparations : List Step :=
  [.setLevel (.text "strong"), .setLevel (.text "lax"), .setTransactions false, .connect]

/-- Two nodes. The first tells of the second as the leader, which sends writes on to another of its
paths and fails there. -/
def diverting : Network :=
  let nodes := "[\x7b\"api_addr\":\"b1:4001\",\"leader\":true\x7d,\x7b\"api_addr\":\"a1:4001\"\x7d]"
  let queued := "\x7b\"sequence_number\":7\x7d"
  [("a1:4001", [("/nodes", [.answer 200 none nodes.toUTF8.toList]),
      ("/db/execute", [.answer 200 none queued.toUTF8.toList])]),
    ("b1:4001", [("/db/execute", [.answer 301 (some "/elsewhere") []]),
      ("/elsewhere", [.answer 503 none []])])]

theorem routed_of_performAll_queued :
    ∃ c w reports c' w' r c'' w'', create "http://a1:4001" {} diverting = .ok (c, w) ∧
      c.performAll w preparations = (reports, c', w') ∧
      c'.step w' (.queue (.text "DELETE FROM foo")) = (r, c'', w'') ∧
      (∃ body vs response, Routed c'.config .write true
        ⟨some ⟨"b1", "4001"⟩, [⟨"a1", "4001"⟩]⟩ "timings&level=strong&queue" w' w'' body vs
        response) ∧
      (w''.sent.drop w'.sent.length).map (fun q => String.ofList q.url.text) =
        ["http://b1:4001/db/execute?timings&level=strong&queue", "http://b1:4001/elsewhere",
          "http://a1:4001/db/execute?timings&level=strong&queue"] := by
  have hvalues : (create "http://a1:4001" {} diverting).toOption.map (fun (c, w) =>
      let ms := c.moments w preparations
      (Moment.latest Moment.level? c.config.level ms,
        Moment.latest Moment.transactions? c.config.transactions ms,
        Moment.latest Moment.found? (.seed ⟨c.config.host, c.config.port⟩) ms)) =
      some (.strong, false, ⟨some ⟨"b1", "4001"⟩, [⟨"a1", "4001"⟩]⟩) := by decide +kernel
  have hsent : (create "http://a1:4001" {} diverting).toOption.map (fun (c, w) =>
      let run := (c.performAll w preparations).2
      ((run.1.step run.2 (.queue (.text "DELETE FROM foo"))).2.2.sent.drop run.2.sent.length).map
        fun q => String.ofList q.url.text) =
      some ["http://b1:4001/db/execute?timings&level=strong&queue", "http://b1:4001/elsewhere",
        "http://a1:4001/db/execute?timings&level=strong&queue"] := by decide +kernel
  rcases hcreate : create "http://a1:4001" {} diverting with cause | ⟨c, w⟩
  · rw [hcreate] at hsent
    cases hsent
  · rcases hrun : c.performAll w preparations with ⟨reports, c', w'⟩
    rcases hstep : c'.step w' (.queue (.text "DELETE FROM foo")) with ⟨r, c'', w''⟩
    rw [hcreate] at hvalues hsent
    simp only [Except.toOption, Option.map_some, Option.some.injEq, Prod.mk.injEq] at hvalues hsent
    simp only [hrun, hstep] at hsent
    obtain ⟨-, -, -, hsubmits⟩ := routed_of_performAll hcreate hrun
    obtain hsilent | hrouted := hsubmits _ .write true r c'' w'' rfl hstep
    · rw [hsilent.sent] at hsent
      simp at hsent
    · rw [hvalues.1, hvalues.2.1, hvalues.2.2] at hrouted
      exact ⟨c, w, reports, c', w', r, c'', w'', rfl, hrun, hstep, hrouted, hsent⟩

end SqlCluster.Client
