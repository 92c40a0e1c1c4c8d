import SqlCluster.Proofs.Discovery.Search
import SqlCluster.Proofs.Dispatch.Failover

/-!
Rounds of questions. A question about the cluster goes round the peers of a directory, one inquiry
each, up to the first that gives the document in full (`Discovery.Round`). A search for the leader
is one such round, or two (`Discovery.rounds_of_discover`).
-/

namespace SqlCluster

namespace Config

variable {config : Config} {op : Operation} {p : Peer} {url : Url}

/-- A question about the cluster goes to the path of its operation, without a query. -/
theorem question_of_requestUrl? (h : config.requestUrl? op p false = some url)
    (hop : op.takesStatements = false) : url.path = op.path.toList ∧ url.query = [] := by
  have hpath : Url.pathQuoting.quote op.path.toList = op.path.toList := by
    cases op <;> decide
  have hclean : Url.cleanPath op.path.toList = op.path.toList := by
    cases op <;> decide
  simp only [requestUrl?, Option.bind_eq_bind, Option.bind_eq_some_iff, hop, Bool.false_eq_true,
    if_false] at h
  obtain ⟨port, -, h⟩ := h
  rw [Url.build?, hpath] at h
  dsimp only at h
  split at h
  · split at h
    · cases h
      exact ⟨rfl, rfl⟩
    · cases h
  · simp only [Option.bind_eq_bind, Option.bind_eq_some_iff] at h
    obtain ⟨host, -, h⟩ := h
    split at h
    · cases h
    · cases h
      exact ⟨hclean, rfl⟩

end Config

namespace Discovery

/-- Whether a request is answered or lost. -/
def isHeard : Option Reply → Bool
  | some (.answer ..) | some (.lost ..) => true
  | some (.aborted _) | none => false

/-- A question put to one peer: where it went, and what came of it. -/
structure Inquiry where
  peer : Peer
  url : Url
  reply : Option Reply

namespace Inquiry

/-- The document that an inquiry gives, if it is answered in full. -/
def document? (i : Inquiry) : Option (List UInt8) :=
  match i.reply with
  | some (.answer status _ body) => if status = 200 then some body else none
  | _ => none

/-- Something comes of an inquiry, and it is no abort: an answer or a loss. -/
def IsHeard (i : Inquiry) : Prop := isHeard i.reply

/-- What goes over the wire in an inquiry. -/
def carried (i : Inquiry) : Request × Option Reply := (.read i.url, i.reply)

/-- An inquiry as a visit of the peer. -/
def visit (i : Inquiry) : Visit := ⟨i.peer, [⟨i.url, i.reply⟩]⟩

end Inquiry

/-- The first document that inquiries give. -/
def firstDocument (is : List Inquiry) : Option (List UInt8) := is.findSome? Inquiry.document?

/-- Inquiries go round the peers of a directory in their order, up to the first that gives a
document; if none does, every peer was asked. -/
structure Round (d : Directory) (is : List Inquiry) : Prop where
  order : is.map (·.peer) <+: d.peers
  first : ∀ i ∈ is.dropLast, i.document? = none
  all : firstDocument is = none → is.map (·.peer) = d.peers

/-- What inquiries report of the cluster, by a reading of documents. -/
def reported (reading : Value → Option Directory) (is : List Inquiry) : Option Directory :=
  (firstDocument is).bind fun body => reading (Topology.document body)

variable {config : Config} {op : Operation} {d found : Directory} {w w' : Wire} {vs : List Visit}
  {is : List Inquiry} {i : Inquiry}

/-! ### Rounds -/

/-- Where redirects are not followed, every visit is one inquiry. -/
theorem exists_inquiries (hop : op.takesStatements = false)
    (hvisits : ∀ v ∈ vs, (Call.question config op).IsVisit v) :
    ∃ is : List Inquiry, vs = is.map Inquiry.visit ∧
      ∀ i ∈ is, config.requestUrl? op i.peer false = some i.url := by
  have hstays : ¬ (op = .write ∨ op = .request) := by
    rintro (rfl | rfl) <;> cases hop
  induction vs with
  | nil => exact ⟨[], rfl, nofun⟩
  | cons v vs ih =>
    obtain ⟨hv, hvs⟩ := List.forall_mem_cons.1 hvisits
    obtain ⟨is, rfl, his⟩ := ih hvs
    obtain ⟨url, hurl, hchain⟩ := hv
    obtain ⟨reply, hreply⟩ := hchain.eq_singleton hstays
    obtain ⟨peer, exchanges⟩ := v
    cases hreply
    exact ⟨⟨peer, url, reply⟩ :: is, rfl, List.forall_mem_cons.2 ⟨hurl, his⟩⟩

theorem flatMap_visit (is : List Inquiry) :
    (is.map Inquiry.visit).flatMap (·.exchanges) = is.map fun i => ⟨i.url, i.reply⟩ := by
  rw [List.flatMap_map, List.map_eq_flatMap]
  rfl

theorem document?_of_isPassed (h : Exchange.IsPassed ⟨i.url, i.reply⟩) : i.document? = none := by
  obtain ⟨status, location, body, hreply, hstatus⟩ | ⟨loss, text, hreply⟩ := h
  · rw [Inquiry.document?]
    simp_all
  · rw [Inquiry.document?]
    simp_all

theorem firstDocument_eq_none : firstDocument is = none ↔ ∀ i ∈ is, i.document? = none :=
  List.findSome?_eq_none_iff

theorem firstDocument_concat (h : ∀ j ∈ is, j.document? = none) :
    firstDocument (is ++ [i]) = i.document? := by
  rw [firstDocument, List.findSome?_append, List.findSome?_eq_none_iff.2 h, Option.none_or,
    List.findSome?_singleton]

theorem resolves_visit (hop : op.takesStatements = false) (h : i.IsHeard) :
    (Call.question config op).Resolves i.visit := by
  refine ⟨fun e he => ?_, fun e _ location hl => ?_⟩
  · rw [Inquiry.visit, List.mem_singleton] at he
    rw [he]
    rintro hnone
    rw [Inquiry.IsHeard, show i.reply = none from hnone] at h
    cases h
  · obtain ⟨rfl | rfl, -⟩ := hl <;> cases hop

theorem map_peer_visit (is : List Inquiry) :
    (is.map Inquiry.visit).map (·.peer) = is.map (·.peer) := by
  rw [List.map_map]
  rfl

/-- What a round of inquiries comes to: the first document that they give, or none. -/
def Comes (is : List Inquiry) (result : Except DispatchError (List UInt8)) : Prop :=
  (∃ body, firstDocument is = some body ∧ result = .ok body) ∨
    ∃ causes, firstDocument is = none ∧ result = .error (.exhausted causes)

/-- A question that settles, and in which every inquiry is heard, is a round. -/
theorem round_of_settles {result : Except DispatchError (List UInt8)}
    (hheard : ∀ i ∈ is, i.IsHeard) (horder : is.map (·.peer) <+: d.peers)
    (h : (Call.question config op).Settles d (is.map Inquiry.visit) result) :
    Round d is ∧ Comes is result := by
  have hpassed {js : List Inquiry} {es : List Exchange}
      (hes : js.map (fun i => ⟨i.url, i.reply⟩) = es) (passed : ∀ e ∈ es, e.IsPassed) :
      ∀ i ∈ js, i.document? = none := fun i hi =>
    document?_of_isPassed (passed _ (hes ▸ List.mem_map_of_mem hi))
  cases h with
  | answered exchanges passed =>
    rw [flatMap_visit, List.map_eq_append_iff] at exchanges
    obtain ⟨front, last, rfl, hfront, hlast⟩ := exchanges
    obtain ⟨i, rfl, hi⟩ := List.map_eq_singleton_iff.1 hlast
    have hdocument := firstDocument_concat (i := i) (hpassed hfront passed)
    rw [Exchange.mk.injEq] at hi
    rw [Inquiry.document?, hi.2] at hdocument
    refine ⟨⟨horder, ?_, fun hnone => ?_⟩, .inl ⟨_, hdocument, rfl⟩⟩
    · rw [List.dropLast_concat]
      exact hpassed hfront passed
    · rw [hdocument] at hnone
      cases hnone
  | aborted exchanges _ =>
    rw [flatMap_visit, List.map_eq_append_iff] at exchanges
    obtain ⟨front, last, rfl, -, hlast⟩ := exchanges
    obtain ⟨i, rfl, hi⟩ := List.map_eq_singleton_iff.1 hlast
    rw [Exchange.mk.injEq] at hi
    have hheard := hheard i (by simp)
    rw [Inquiry.IsHeard, hi.2] at hheard
    cases hheard
  | exhausted passed all _ =>
    rw [flatMap_visit] at passed
    have hnone := hpassed rfl passed
    exact ⟨⟨horder, fun i hi => hnone i (List.dropLast_subset is hi),
      fun _ => map_peer_visit is ▸ all⟩, .inr ⟨_, firstDocument_eq_none.2 hnone, rfl⟩⟩

/-- A question is put to peers at their URLs, and where every inquiry is heard it is a round. -/
theorem exists_round {result : Except DispatchError (List UInt8)}
    (hop : op.takesStatements = false)
    (hpeers : ∀ p ∈ d.peers, (config.requestUrl? op p false).isSome)
    (h : Call.Transcript (.question config op) d w vs result w') :
    ∃ is : List Inquiry, w.Carried (is.map Inquiry.carried) w' ∧
      (∀ i ∈ is, config.requestUrl? op i.peer false = some i.url) ∧
      ((∀ i ∈ is, i.IsHeard) → Round d is ∧ Comes is result) := by
  obtain ⟨is, rfl, hurls⟩ := exists_inquiries hop h.visits
  refine ⟨is, ?_, hurls, fun hheard => ?_⟩
  · have hcarried := h.exchanged.carried
    rw [flatMap_visit, List.map_map] at hcarried
    simp only [Function.comp_def, Request.of, hop] at hcarried
    exact hcarried
  · have hresolves : ∀ v ∈ is.map Inquiry.visit, (Call.question config op).Resolves v := by
      intro v hv
      obtain ⟨i, hi, rfl⟩ := List.mem_map.1 hv
      exact resolves_visit hop (hheard i hi)
    exact round_of_settles hheard (map_peer_visit is ▸ h.order)
      (h.settles_iff_ne.2 ((h.resolves_iff_ne hpeers).1 hresolves))

/-! ### Searches -/

theorem reported_of_firstDocument {body : List UInt8} (h : firstDocument is = some body)
    (reading : Value → Option Directory) :
    reported reading is = reading (Topology.document body) := by
  rw [reported, h, Option.bind_some]

theorem reported_of_firstDocument_eq_none (h : firstDocument is = none)
    (reading : Value → Option Directory) : reported reading is = none := by
  rw [reported, h, Option.bind_none]

theorem firstDocument_of_comes_ok {body : List UInt8} (h : Comes is (.ok body)) :
    firstDocument is = some body := by
  obtain ⟨_, h, heq⟩ | ⟨_, _, heq⟩ := h <;> cases heq
  exact h

theorem firstDocument_of_comes_exhausted {causes : List PeerFailure}
    (h : Comes is (.error (.exhausted causes))) : firstDocument is = none := by
  obtain ⟨_, _, heq⟩ | ⟨_, h, heq⟩ := h <;> cases heq
  exact h

theorem not_comes_interrupted {cause : Interruption} :
    ¬ Comes is (.error (.interrupted cause)) := by
  rintro (⟨_, _, heq⟩ | ⟨_, _, heq⟩) <;> cases heq

/-- What the round of questions for the node document comes to: the directory that the first
document tells of, or no leader, which is for want of a document exactly if there is none. -/
structure Ends (is : List Inquiry) (result : Except DiscoveryError Directory) : Prop where
  found : ∀ found, reported Topology.ofNodes? is = some found → result = .ok found
  unfound : reported Topology.ofNodes? is = none → ∃ cause, result = .error (.topology cause) ∧
    ((∃ causes, cause = .unreachable causes) ↔ firstDocument is = none)

variable {result : Except DiscoveryError Directory}

/-- The question for the node document, and how its answer ends the search. -/
theorem NodeSearch.exists_transcript (h : NodeSearch config d w result w') :
    ∃ vs answer, Call.Transcript (.question config .nodes) d w vs answer w' ∧
      ∀ is, Comes is answer → Ends is result := by
  cases h with
  | told asked told =>
    refine ⟨_, _, asked, fun is hcomes => ?_⟩
    have hreported := reported_of_firstDocument (firstDocument_of_comes_ok hcomes) Topology.ofNodes?
    rw [told] at hreported
    refine ⟨fun found h => ?_, fun h => ?_⟩
    · rw [hreported, Option.some.injEq] at h
      rw [h]
    · rw [hreported] at h
      cases h
  | untold asked untold =>
    refine ⟨_, _, asked, fun is hcomes => ?_⟩
    have hfirst := firstDocument_of_comes_ok hcomes
    have hreported := reported_of_firstDocument hfirst Topology.ofNodes?
    rw [untold] at hreported
    refine ⟨fun found h => ?_, fun _ => ⟨_, rfl, ?_⟩⟩
    · rw [hreported] at h
      cases h
    · rw [hfirst]
      simp
  | exhausted asked =>
    refine ⟨_, _, asked, fun is hcomes => ?_⟩
    have hfirst := firstDocument_of_comes_exhausted hcomes
    have hreported := reported_of_firstDocument_eq_none hfirst Topology.ofNodes?
    refine ⟨fun found h => ?_, fun _ => ⟨_, rfl, ?_⟩⟩
    · rw [hreported] at h
      cases h
    · rw [hfirst]
      simp
  | interrupted asked => exact ⟨_, _, asked, fun is hcomes => absurd hcomes not_comes_interrupted⟩

/-- The question for the status document: its answer ends the search, or the node document is asked
for behind it. -/
theorem Search.exists_transcript (h : Search config d w result w') :
    ∃ vs answer w₁, Call.Transcript (.question config .status) d w vs answer w₁ ∧
      ((w' = w₁ ∧ ∀ is, Comes is answer →
          ∃ found, reported Topology.ofStatus? is = some found ∧ result = .ok found) ∨
        NodeSearch config d w₁ result w' ∧
          ∀ is, Comes is answer → reported Topology.ofStatus? is = none) := by
  cases h with
  | told asked told =>
    refine ⟨_, _, _, asked, .inl ⟨rfl, fun is hcomes => ⟨_, ?_, rfl⟩⟩⟩
    rw [reported_of_firstDocument (firstDocument_of_comes_ok hcomes), told]
  | interrupted asked =>
    exact ⟨_, _, _, asked, .inl ⟨rfl, fun is hcomes => absurd hcomes not_comes_interrupted⟩⟩
  | untold asked untold nodes =>
    refine ⟨_, _, _, asked, .inr ⟨nodes, fun is hcomes => ?_⟩⟩
    rw [reported_of_firstDocument (firstDocument_of_comes_ok hcomes), untold]
  | exhausted asked nodes =>
    exact ⟨_, _, _, asked, .inr ⟨nodes, fun is hcomes =>
      reported_of_firstDocument_eq_none (firstDocument_of_comes_exhausted hcomes) _⟩⟩

/-- What went over the wire in rounds of questions was read only. -/
theorem reads_of_carried (hurls : ∀ i ∈ is, i.url.query = [])
    (h : w.Carried (is.map Inquiry.carried) w') :
    ∀ q ∈ w'.sent.drop w.sent.length, q.method = "GET" ∧ q.body = none ∧ q.url.query = [] := by
  rw [h.sent, List.drop_left, List.map_map]
  intro q hq
  obtain ⟨i, hi, rfl⟩ := List.mem_map.1 hq
  exact ⟨rfl, rfl, hurls i hi⟩

/-- Whether inquiries are heard is told by what the network has for the requests. -/
theorem isHeard_of_carried (h : w.Carried (is.map Inquiry.carried) w')
    (hreplies : ∀ reply ∈ (w.network.askAll ((w'.sent.drop w.sent.length).map (·.url))).1,
      isHeard reply) : ∀ i ∈ is, i.IsHeard := by
  have hask := h.replies
  rw [h.sent, List.drop_left, List.map_map] at hreplies
  simp only [List.map_map, Function.comp_def] at hask hreplies
  rw [hask] at hreplies
  exact fun i hi => hreplies _ (List.mem_map_of_mem hi)

/-- Discovery asks for the status document, round the peers of the directory. If the first document
that it gets tells of a directory, that is the answer, and nothing more is asked. Otherwise it asks
for the node document, round the same peers, and the answer is the directory that the first document
tells of, or that there is no leader. All that is sent is read, without a query. -/
theorem rounds_of_discover (config : Config) (d : Directory) (w : Wire)
    (hpeers : ∀ p ∈ d.peers, ∀ op, (config.requestUrl? op p false).isSome) :
    ∃ is is' : List Inquiry,
      w.Carried ((is ++ is').map Inquiry.carried) (discover config d w).2 ∧
      (∀ i ∈ is, config.requestUrl? .status i.peer false = some i.url ∧
        i.url.path = "/status".toList) ∧
      (∀ i ∈ is', config.requestUrl? .nodes i.peer false = some i.url ∧
        i.url.path = "/nodes".toList) ∧
      (∀ q ∈ (discover config d w).2.sent.drop w.sent.length,
        q.method = "GET" ∧ q.body = none ∧ q.url.query = []) ∧
      ((∀ i ∈ is ++ is', i.IsHeard) → Round d is ∧
        (∀ found, reported Topology.ofStatus? is = some found →
          is' = [] ∧ (discover config d w).1 = .ok found) ∧
        (reported Topology.ofStatus? is = none →
          Round d is' ∧ Ends is' (discover config d w).1)) := by
  obtain ⟨vs, answer, w₁, hasked, hthen⟩ := (search_discover config d w).exists_transcript
  obtain ⟨is, hcarried, hurls, hround⟩ :=
    exists_round rfl (fun p hp => hpeers p hp .status) hasked
  have hplace : ∀ i ∈ is, i.url.path = "/status".toList ∧ i.url.query = [] := fun i hi =>
    Config.question_of_requestUrl? (hurls i hi) rfl
  obtain ⟨hw, hanswer⟩ | ⟨hnodes, hanswer⟩ := hthen
  · rw [hw]
    refine ⟨is, [], by simpa using hcarried, fun i hi => ⟨hurls i hi, (hplace i hi).1⟩, nofun,
      reads_of_carried (fun i hi => (hplace i hi).2) hcarried, fun hheard => ?_⟩
    obtain ⟨hround, hcomes⟩ := hround (by simpa using hheard)
    obtain ⟨found, hreported, hresult⟩ := hanswer is hcomes
    refine ⟨hround, fun found' h => ⟨rfl, ?_⟩, fun h => ?_⟩
    · rw [hreported, Option.some.injEq] at h
      rw [hresult, h]
    · rw [hreported] at h
      cases h
  · obtain ⟨vs', answer', hasked', hends⟩ := hnodes.exists_transcript
    obtain ⟨is', hcarried', hurls', hround'⟩ :=
      exists_round rfl (fun p hp => hpeers p hp .nodes) hasked'
    have hplace' : ∀ i ∈ is', i.url.path = "/nodes".toList ∧ i.url.query = [] := fun i hi =>
      Config.question_of_requestUrl? (hurls' i hi) rfl
    have hboth : w.Carried ((is ++ is').map Inquiry.carried) (discover config d w).2 := by
      rw [List.map_append]
      exact hcarried.append hcarried'
    have hquery : ∀ i ∈ is ++ is', i.url.query = [] := List.forall_mem_append.2
      ⟨fun i hi => (hplace i hi).2, fun i hi => (hplace' i hi).2⟩
    refine ⟨is, is', hboth, fun i hi => ⟨hurls i hi, (hplace i hi).1⟩,
      fun i hi => ⟨hurls' i hi, (hplace' i hi).1⟩, reads_of_carried hquery hboth,
      fun hheard => ?_⟩
    obtain ⟨hheard, hheard'⟩ := List.forall_mem_append.1 hheard
    obtain ⟨hround, hcomes⟩ := hround hheard
    obtain ⟨hround', hcomes'⟩ := hround' hheard'
    refine ⟨hround, fun found h => ?_, fun _ => ⟨hround', hends is' hcomes'⟩⟩
    rw [hanswer is hcomes] at h
    cases h

/-- The first of two nodes gives no document; the second one gives both, but its status document
tells of no leader. -/
def unled : Wire :=
  .ofNetwork [
    ("a1:4001", [("/status", [.answer 500 none []]), ("/nodes", [.lost .timeout none])]),
    ("b1:4001", [("/status", [.answer 200 none [123, 125]]),
      ("/nodes", [.answer 200 none
        "[\x7b\"api_addr\":\"b1:4001\",\"leader\":true\x7d]".toUTF8.toList])])]

theorem rounds_of_discover_unled :
    (∀ p ∈ Call.twoNodes.peers, ∀ op, (Config.requestUrl? {} op p false).isSome) ∧
      (discover {} Call.twoNodes unled).1 = .ok ⟨some ⟨"b1", "4001"⟩, []⟩ ∧
      ∃ is is' : List Inquiry, (∀ i ∈ is ++ is', i.IsHeard) ∧ Round Call.twoNodes is ∧
        (reported Topology.ofStatus? is = none → Round Call.twoNodes is' ∧
          Ends is' (.ok ⟨some ⟨"b1", "4001"⟩, []⟩)) := by
  have hpeers : ∀ p ∈ Call.twoNodes.peers, ∀ op, (Config.requestUrl? {} op p false).isSome := by
    have hall : ∀ p ∈ Call.twoNodes.peers, ∀ op ∈ [Operation.query, .write, .request, .status,
      .nodes], (Config.requestUrl? {} op p false).isSome := by decide +kernel
    exact fun p hp op => hall p hp op (by cases op <;> decide)
  have hresult : (discover {} Call.twoNodes unled).1 = .ok ⟨some ⟨"b1", "4001"⟩, []⟩ := by
    decide +kernel
  obtain ⟨is, is', hcarried, -, -, -, hrounds⟩ := rounds_of_discover {} Call.twoNodes unled hpeers
  have hheard : ∀ i ∈ is ++ is', i.IsHeard := isHeard_of_carried hcarried (by decide +kernel)
  obtain ⟨hround, -, hthen⟩ := hrounds hheard
  exact ⟨hpeers, hresult, is, is', hheard, hround, hresult ▸ hthen⟩

end Discovery

end SqlCluster
