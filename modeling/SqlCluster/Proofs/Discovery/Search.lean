import SqlCluster.Discovery
import SqlCluster.Proofs.Dispatch.Transcript

/-!
Searches for the leader. Discovery is one call or two: the question for the status document, and
where that tells nothing the question for the node document. `Discovery.Search` says so in terms of
the transcripts of both calls. What a search finds was read from the last answer that came over the
wire (`Search.exists_last_answer`).
-/

namespace SqlCluster

/-! ### What went over a wire -/

/-- What went over a wire between two states of it: requests one after the other, each with what
came of it. -/
structure Wire.Carried (w : Wire) (es : List (Request × Option Reply)) (w' : Wire) : Prop where
  sent : w'.sent = w.sent ++ es.map Prod.fst
  replies : w.network.askAll (es.map (·.1.url)) = (es.map Prod.snd, w'.network)

theorem Wire.Carried.nil (w : Wire) : w.Carried [] w := ⟨by simp, rfl⟩

theorem Wire.Carried.noteAfter {w w' : Wire} {es : List (Request × Option Reply)} (n : Note)
    (h : w.Carried es w') : w.Carried es (w'.note n) := ⟨h.sent, h.replies⟩

theorem Wire.Carried.append {w w' w'' : Wire} {es es' : List (Request × Option Reply)}
    (h : w.Carried es w') (h' : w'.Carried es' w'') : w.Carried (es ++ es') w'' := by
  refine ⟨by simp [h'.sent, h.sent], ?_⟩
  rw [List.map_append, Network.askAll_append, h.replies, h'.replies, List.map_append]

namespace Call

/-- The call that asks about the cluster. -/
abbrev question (config : Config) (op : Operation) : Call := ⟨config, op, none, false⟩

variable {call : Call} {d : Directory} {w w' : Wire} {es : List Exchange} {vs : List Visit}
  {result : Except DispatchError (List UInt8)}

theorem Exchanged.carried (h : call.Exchanged w es w') :
    w.Carried (es.map fun e => (.of call.op call.body e.url, e.reply)) w' := by
  refine ⟨by simp [h.sent, Function.comp_def], ?_⟩
  simpa [Function.comp_def] using h.replies

theorem Transcript.noteBefore {n : Note} (h : call.Transcript d (w.note n) vs result w') :
    call.Transcript d w vs result w' :=
  ⟨h.order, h.visits, h.exchanged.noteBefore, h.concludes⟩

theorem Transcript.noteAfter (n : Note) (h : call.Transcript d w vs result w') :
    call.Transcript d w vs result (w'.note n) :=
  ⟨h.order, h.visits, h.exchanged.noteAfter n, h.concludes⟩

/-- Where redirects are not followed, a chain is one exchange. -/
theorem IsChain.eq_singleton {redirects : Nat} {url : Url} (h : call.IsChain redirects url es)
    (hop : ¬ (call.op = .write ∨ call.op = .request)) : ∃ reply, es = [⟨url, reply⟩] := by
  obtain ⟨hstart, hfollows, -⟩ := h
  match es with
  | [] => simp at hstart
  | [⟨u, reply⟩] =>
    obtain rfl : u = url := by simpa using hstart
    exact ⟨reply, rfl⟩
  | e :: e' :: es =>
    obtain ⟨_, hleads, -⟩ := (List.isChain_cons_cons.1 hfollows).1
    exact absurd hleads.1 hop

/-- The full answer to a question about the cluster is the last that came over the wire, and it came
from a peer of the directory at the URL of the question. -/
theorem Transcript.exists_last_read {config : Config} {op : Operation} {body : List UInt8}
    (h : Transcript (question config op) d w vs (.ok body) w')
    (hop : op.takesStatements = false) :
    ∃ p ∈ d.peers, ∃ url, config.requestUrl? op p false = some url ∧
      ∃ es location, w.Carried (es ++ [(.read url, some (.answer 200 location body))]) w' := by
  have hstays : ¬ (op = .write ∨ op = .request) := by
    rintro (rfl | rfl) <;> cases hop
  obtain ⟨horder, hvisits, hexchanged, hconcludes⟩ := h
  cases hconcludes with
  | @answered vs causes v _ failed last =>
    obtain ⟨url, hurl, hchain⟩ := hvisits v (by simp)
    -- so the URL that answered is the one that was asked for first
    obtain ⟨reply, hreply⟩ := hchain.eq_singleton hstays
    cases last with
    | @answered url' location _ last =>
      rw [hreply, List.getLast?_singleton, Option.some.injEq] at last
      cases last
      have hpeer : v.peer ∈ d.peers := horder.subset (by simp)
      have hcarried := hexchanged.carried
      rw [List.flatMap_append, List.map_append] at hcarried
      exact ⟨v.peer, hpeer, url, hurl, _, location,
        by simpa [hreply, Request.of, hop] using hcarried⟩

end Call

/-! ### Searches -/

namespace Discovery

variable {config : Config} {d found : Directory} {w w' : Wire}

theorem transcript_noteFollowers {call : Call} {vs : List Visit}
    {result : Except DispatchError (List UInt8)} (place : Nat) (ps : List Peer)
    (h : call.Transcript d w vs result w') :
    call.Transcript d w vs result (noteFollowers place ps w') := by
  induction ps generalizing place w' with
  | nil => exact h
  | cons p ps ih => exact ih (place + 1) (h.noteAfter _)

/-- What comes of the question for the node document: the directory that it tells of, or that no
peer answers, that the document tells of none, or an interruption. -/
inductive NodeSearch (config : Config) (d : Directory) (w : Wire) :
    Except DiscoveryError Directory → Wire → Prop
  | told {vs : List Visit} {body : List UInt8} {found : Directory} {w' : Wire}
      (asked : Call.Transcript (.question config .nodes) d w vs (.ok body) w')
      (told : Topology.ofNodes? (Topology.document body) = some found) :
      NodeSearch config d w (.ok found) w'
  | untold {vs : List Visit} {body : List UInt8} {w' : Wire}
      (asked : Call.Transcript (.question config .nodes) d w vs (.ok body) w')
      (untold : Topology.ofNodes? (Topology.document body) = none) :
      NodeSearch config d w (.error (.topology .noLeader)) w'
  | exhausted {vs : List Visit} {causes : List PeerFailure} {w' : Wire}
      (asked : Call.Transcript (.question config .nodes) d w vs (.error (.exhausted causes)) w') :
      NodeSearch config d w (.error (.topology (.unreachable causes))) w'
  | interrupted {vs : List Visit} {cause : Interruption} {w' : Wire}
      (asked : Call.Transcript (.question config .nodes) d w vs (.error (.interrupted cause)) w') :
      NodeSearch config d w (.error (.interrupted cause)) w'

/-- A search for the leader: the status document tells of it, or the question for it is interrupted,
or the node document is asked for because the status document tells of none or no peer gave it. -/
inductive Search (config : Config) (d : Directory) (w : Wire) :
    Except DiscoveryError Directory → Wire → Prop
  | told {vs : List Visit} {body : List UInt8} {found : Directory} {w' : Wire}
      (asked : Call.Transcript (.question config .status) d w vs (.ok body) w')
      (told : Topology.ofStatus? (Topology.document body) = some found) :
      Search config d w (.ok found) w'
  | interrupted {vs : List Visit} {cause : Interruption} {w' : Wire}
      (asked : Call.Transcript (.question config .status) d w vs (.error (.interrupted cause)) w') :
      Search config d w (.error (.interrupted cause)) w'
  | untold {vs : List Visit} {body : List UInt8} {w₁ w' : Wire}
      {result : Except DiscoveryError Directory}
      (asked : Call.Transcript (.question config .status) d w vs (.ok body) w₁)
      (untold : Topology.ofStatus? (Topology.document body) = none)
      (nodes : NodeSearch config d w₁ result w') : Search config d w result w'
  | exhausted {vs : List Visit} {causes : List PeerFailure} {w₁ w' : Wire}
      {result : Except DiscoveryError Directory}
      (asked : Call.Transcript (.question config .status) d w vs (.error (.exhausted causes)) w₁)
      (nodes : NodeSearch config d w₁ result w') : Search config d w result w'

theorem NodeSearch.noteAfter {result : Except DiscoveryError Directory} (n : Note)
    (h : NodeSearch config d w result w') : NodeSearch config d w result (w'.note n) := by
  cases h with
  | told asked told => exact .told (asked.noteAfter n) told
  | untold asked untold => exact .untold (asked.noteAfter n) untold
  | exhausted asked => exact .exhausted (asked.noteAfter n)
  | interrupted asked => exact .interrupted (asked.noteAfter n)

theorem Search.noteAfter {result : Except DiscoveryError Directory} (n : Note)
    (h : Search config d w result w') : Search config d w result (w'.note n) := by
  cases h with
  | told asked told => exact .told (asked.noteAfter n) told
  | interrupted asked => exact .interrupted (asked.noteAfter n)
  | untold asked untold nodes => exact .untold asked untold (nodes.noteAfter n)
  | exhausted asked nodes => exact .exhausted asked (nodes.noteAfter n)

theorem nodeSearch_askNodes (config : Config) (d : Directory) (w : Wire) :
    NodeSearch config d w (askNodes config d w).1 (askNodes config d w).2 := by
  obtain ⟨vs, h⟩ := Call.exists_transcript (.question config .nodes) d w
  rw [askNodes]
  split
  next causes w₁ hdispatch =>
    rw [hdispatch] at h
    exact .exhausted h
  next cause w₁ hdispatch =>
    rw [hdispatch] at h
    exact .interrupted h
  next body w₁ hdispatch =>
    rw [hdispatch] at h
    split
    next htold => exact .untold h htold
    next found htold => exact .told (transcript_noteFollowers 0 _ (h.noteAfter _)) htold

/-- Discovery is a search for the leader. -/
theorem search_discover (config : Config) (d : Directory) (w : Wire) :
    Search config d w (discover config d w).1 (discover config d w).2 := by
  obtain ⟨vs, h⟩ := Call.exists_transcript (.question config .status) d w
  rw [discover]
  split
  next causes w₁ hdispatch =>
    rw [hdispatch] at h
    exact .exhausted (h.noteAfter _) (nodeSearch_askNodes config d _)
  next cause w₁ hdispatch =>
    rw [hdispatch] at h
    exact .interrupted h
  next body w₁ hdispatch =>
    rw [hdispatch] at h
    split
    next found htold => exact .told (h.noteAfter _) htold
    next htold => exact .untold (h.noteAfter _) htold (nodeSearch_askNodes config d _)

/-- A directory was read from an answer: a peer that had been asked for the status document or for
the node document gave it in full, and the document tells of the directory. -/
inductive IsReadFrom (config : Config) (d : Directory) (url : Url) (body : List UInt8)
    (found : Directory) : Prop
  | status {p : Peer} (peer : p ∈ d.peers)
      (question : config.requestUrl? .status p false = some url)
      (told : Topology.ofStatus? (Topology.document body) = some found) :
      IsReadFrom config d url body found
  | nodes {p : Peer} (peer : p ∈ d.peers)
      (question : config.requestUrl? .nodes p false = some url)
      (told : Topology.ofNodes? (Topology.document body) = some found) :
      IsReadFrom config d url body found

/-- What a search finds was read from the last answer that came over the wire. -/
theorem Search.exists_last_answer (h : Search config d w (.ok found) w') :
    ∃ es url location body, w.Carried (es ++ [(.read url, some (.answer 200 location body))]) w' ∧
      IsReadFrom config d url body found := by
  -- what came in answer to the first question stands before what came in answer to the second
  have hnodes {w₁ : Wire} {vs : List Visit} {answer : Except DispatchError (List UInt8)}
      (hasked : Call.Transcript (.question config .status) d w vs answer w₁)
      (h : NodeSearch config d w₁ (.ok found) w') : ∃ es url location body,
        w.Carried (es ++ [(.read url, some (.answer 200 location body))]) w' ∧
          IsReadFrom config d url body found := by
    cases h with
    | told asked told =>
      obtain ⟨p, hp, url, hurl, es, location, hes⟩ := asked.exists_last_read rfl
      have hcarried := hasked.exchanged.carried.append hes
      rw [← List.append_assoc] at hcarried
      exact ⟨_, url, location, _, hcarried, .nodes hp hurl told⟩
  cases h with
  | told asked told =>
    obtain ⟨p, hp, url, hurl, es, location, hes⟩ := asked.exists_last_read rfl
    exact ⟨es, url, location, _, hes, .status hp hurl told⟩
  | untold asked _ nodes => exact hnodes asked nodes
  | exhausted asked nodes => exact hnodes asked nodes

end Discovery

end SqlCluster
