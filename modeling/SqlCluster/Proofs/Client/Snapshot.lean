import SqlCluster.Proofs.Client.Turn
import SqlCluster.Proofs.Directory.Leader
import SqlCluster.Proofs.Dispatch.Failover

/-!
The directory that a client knows its cluster by. It changes only as a whole, and only to what the
client has just been told in answer to its questions (`Turn.cluster_cases`), so a client holds only
directories that it came by (`isHeld_of_create_performAll`). Where discovery is disabled it never
changes, and nothing but statements is sent (`Undiscovered.turn`).
-/

namespace SqlCluster

theorem Config.seed_of_override {c c' : Config} {o : Options}
    (h : c.override o = .ok c') : c'.seed = c.seed := by
  cases ho : o.level with
  | none =>
    simp only [Config.override, ho] at h
    cases h
    rfl
  | some v =>
    simp only [Config.override, ho, Config.setLevel] at h
    split at h <;> cases h
    rfl

/-- What was read from an answer, a topology document told of. -/
theorem Discovery.IsReadFrom.isHeld {config : Config} {d found : Directory} {url : Url}
    {body : List UInt8} (h : IsReadFrom config d url body found) : found.IsHeld := by
  cases h with
  | status _ _ told => exact .status told
  | nodes _ _ told => exact .nodes told

namespace Client

variable {c c' : Client} {w w' : Wire} {s : Step} {r : Except ClientError Answer}

/-- A turn leaves the directory alone, or it succeeds and takes over all that a search for the
leader found. -/
theorem Turn.cluster_cases (h : c.Turn w s r c' w') :
    c'.cluster = c.cluster ∨
      (s.Connects ∨ s.Tells) ∧ (∃ a, r = .ok a) ∧
        Discovery.Search c.config c.cluster w (.ok c'.cluster) w' := by
  cases h with
  | still | submitted | leveled | switched | opened | unrefreshed => exact .inl rfl
  | unconnected => exact .inl (cluster_closeSession c.openSession)
  | ended => exact .inl (cluster_closeSession c)
  | connected _ connects _ _ search => exact .inr ⟨.inl connects, ⟨_, rfl⟩, search⟩
  | refreshed _ tells _ search => exact .inr ⟨.inr tells, ⟨_, rfl⟩, search⟩

/-! ### Directories that a client comes by -/

theorem isHeld_of_create {url : String} {o : Options} {n : Network}
    (h : create url o n = .ok (c, w)) : c.cluster.IsHeld := by
  rw [create] at h
  cases hurl : Config.ofUrl url with
  | error cause => rw [hurl] at h; cases h
  | ok config =>
    rw [hurl] at h
    cases hoverride : config.override o with
    | error cause => simp only [bind, Except.bind, hoverride] at h; cases h
    | ok config' =>
      simp only [bind, Except.bind, hoverride] at h
      cases h
      show config'.seed.IsHeld
      rw [Config.seed_of_override hoverride]
      exact .seed hurl

/-- No turn leaves a client with a directory that it did not come by. -/
theorem Turn.isHeld (h : c.Turn w s r c' w') (hc : c.cluster.IsHeld) : c'.cluster.IsHeld := by
  obtain heq | ⟨-, -, hsearch⟩ := h.cluster_cases
  · rwa [heq]
  · obtain ⟨_, _, _, _, -, hread⟩ := hsearch.exists_last_answer
    exact hread.isHeld

/-- Whatever a client is asked to do, it holds a directory that it came by. -/
theorem isHeld_of_create_performAll {url : String} {o : Options} {n : Network}
    (h : create url o n = .ok (c, w)) (ss : List Step) :
    (c.performAll w ss).2.1.cluster.IsHeld :=
  performAll_induction (P := fun c _ => c.cluster.IsHeld) Turn.isHeld (isHeld_of_create h) ss

/-! ### Clients that do not discover their cluster -/

/-- A client does not discover its cluster: it knows the node of a configuration only, and all that
it ever sent was posted. -/
structure Undiscovered (config : Config) (c : Client) (w : Wire) : Prop where
  off : c.config.disableDiscovery = true
  cluster : c.cluster = .seed ⟨config.host, config.port⟩
  posts : ∀ q ∈ w.sent, q.method = "POST"

theorem Undiscovered.posts_of_transcript {config : Config} {call : Call} {d : Directory}
    {vs : List Visit} {response : Except DispatchError (List UInt8)}
    (hc : Undiscovered config c w) (h : call.Transcript d w vs response w')
    (hop : call.op.takesStatements = true) : ∀ q ∈ w'.sent, q.method = "POST" := by
  have hposts := h.exchanged.posts hop
  rw [h.exchanged.sent, List.drop_left] at hposts
  intro q hq
  rw [h.exchanged.sent] at hq
  obtain hq | hq := List.mem_append.1 hq
  · exact hc.posts q hq
  · rw [hposts q hq]
    rfl

theorem Undiscovered.turn {config : Config} (h : c.Turn w s r c' w')
    (hc : Undiscovered config c w) : Undiscovered config c' w' := by
  have hsilent (h : w.Carried [] w') : ∀ q ∈ w'.sent, q.method = "POST" := by
    simpa [h.sent] using hc.posts
  cases h with
  | still silent => exact ⟨hc.off, hc.cluster, hsilent silent⟩
  | submitted _ _ statements transcript =>
    exact ⟨hc.off, hc.cluster, hc.posts_of_transcript transcript statements⟩
  | leveled _ _ silent => exact ⟨hc.off, hc.cluster, hsilent silent⟩
  | switched _ silent => exact ⟨hc.off, hc.cluster, hsilent silent⟩
  | opened _ _ _ _ silent => exact ⟨hc.off, hc.cluster, hsilent silent⟩
  | ended _ silent => exact ⟨by simpa using hc.off, by simpa using hc.cluster, hsilent silent⟩
  | connected _ _ _ on | unconnected _ _ _ on | refreshed _ _ on | unrefreshed _ _ on =>
    -- only a search reads, and there is none
    rw [hc.off] at on
    cases on

theorem eq_of_create {url : String} {o : Options} {n : Network} (h : create url o n = .ok (c, w)) :
    c = ofConfig c.config ∧ w.sent = [] := by
  simp only [create, bind_eq_ok] at h
  obtain ⟨_, _, _, _, h⟩ := h
  cases h
  exact ⟨rfl, rfl⟩

theorem undiscovered_of_create {url : String} {o : Options} {n : Network}
    (h : create url o n = .ok (c, w)) (hoff : c.config.disableDiscovery = true) :
    Undiscovered c.config c w := by
  obtain ⟨hc, hsent⟩ := eq_of_create h
  refine ⟨hoff, by rw [hc]; rfl, ?_⟩
  rw [hsent]
  exact fun _ hq => by cases hq

/-! ### All states that a client comes to -/

/-- In every state that a client comes to, its directory has a leader, which comes first, and no
peer comes twice. A step changes the directory only if it asks the client to connect or about the
cluster and succeeds, and then to what the last answer that came in that step tells of. Where
discovery is disabled the directory is the node of the connection URL for good, and all that is sent
is posted. -/
theorem snapshot_of_performAll {url : String} {o : Options} {n : Network} {ss : List Step}
    {reports : List Report} (h : create url o n = .ok (c, w))
    (hrun : c.performAll w ss = (reports, c', w')) :
    (∃ leader, c'.cluster.leader = some leader ∧ c'.cluster.peers.head? = some leader ∧
        c'.cluster.peers.Nodup) ∧
      (∀ s r c'' w'', c'.step w' s = (r, c'', w'') → c''.cluster ≠ c'.cluster →
        (s.Connects ∨ s.Tells) ∧ (∃ a, r = .ok a) ∧ ∃ es url location body,
          w'.Carried (es ++ [(.read url, some (.answer 200 location body))]) w'' ∧
            Discovery.IsReadFrom c'.config c'.cluster url body c''.cluster) ∧
      (c.config.disableDiscovery = true →
        c'.cluster = .seed ⟨c.config.host, c.config.port⟩ ∧ ∀ q ∈ w'.sent, q.method = "POST") := by
  refine ⟨?_, ?_, fun hoff => ?_⟩
  · have hheld := isHeld_of_create_performAll h ss
    rw [hrun] at hheld
    obtain ⟨leader, hleader⟩ := hheld.exists_leader
    exact ⟨leader, hleader, Directory.head?_peers hleader, Directory.nodup_peers _⟩
  · intro s r c'' w'' hstep hne
    have hturn := c'.turn_step w' s
    rw [hstep] at hturn
    obtain heq | ⟨hs, hr, hsearch⟩ := hturn.cluster_cases
    · exact absurd heq hne
    · exact ⟨hs, hr, hsearch.exists_last_answer⟩
  · have hundiscovered := performAll_induction (P := Undiscovered c.config) Undiscovered.turn
      (undiscovered_of_create h hoff) ss
    rw [hrun] at hundiscovered
    exact ⟨hundiscovered.cluster, hundiscovered.posts⟩

/-- A node that tells of another one as the leader. -/
def pointing : Network :=
  [("a1:4001", [("/nodes", [.answer 200 none
    "[\x7b\"api_addr\":\"b1:4001\",\"leader\":true\x7d]".toUTF8.toList])])]

theorem snapshot_of_performAll_discovered :
    ∃ c w a c' w', create "http://a1:4001" {} pointing = .ok (c, w) ∧
      c.cluster = ⟨some ⟨"a1", "4001"⟩, []⟩ ∧ c.step w .connect = (.ok a, c', w') ∧
      c'.cluster = ⟨some ⟨"b1", "4001"⟩, []⟩ ∧ ∃ es url location body,
        w.Carried (es ++ [(.read url, some (.answer 200 location body))]) w' ∧
          Discovery.IsReadFrom c.config c.cluster url body c'.cluster := by
  have hclusters : (create "http://a1:4001" {} pointing).toOption.map (fun (c, w) =>
      (c.cluster, (c.step w .connect).2.1.cluster)) =
      some (⟨some ⟨"a1", "4001"⟩, []⟩, ⟨some ⟨"b1", "4001"⟩, []⟩) := by decide +kernel
  rcases hcreate : create "http://a1:4001" {} pointing with cause | ⟨c, w⟩
  · rw [hcreate] at hclusters
    cases hclusters
  · rcases hstep : c.step w .connect with ⟨r, c', w'⟩
    rw [hcreate] at hclusters
    simp only [Except.toOption, Option.map_some, Option.some.injEq, Prod.mk.injEq, hstep]
      at hclusters
    obtain ⟨hbefore, hafter⟩ := hclusters
    have hrun : c.performAll w [] = ([], c, w) := rfl
    obtain ⟨-, hchange, -⟩ := snapshot_of_performAll hcreate hrun
    have hne : c'.cluster ≠ c.cluster := by
      rw [hbefore, hafter]
      decide
    obtain ⟨-, ⟨a, rfl⟩, hread⟩ := hchange _ _ _ _ hstep hne
    exact ⟨c, w, a, c', w', rfl, hbefore, hstep, hafter, hread⟩

end Client

end SqlCluster
