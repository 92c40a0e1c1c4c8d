import Mathlib.Control.Monad.Basic
import SqlCluster.Proofs.Dispatch.Transcript

/-!
Failover. A call goes on behind every exchange but a full answer and an abort, so it comes to the
first full answer, or to an abort, or every peer failed. Only a URL that cannot be made or read
leads to anything else, and such a URL always does (`Transcript.settles_iff_ne`,
`Transcript.resolves_iff_ne`).
-/

namespace SqlCluster

/-- A call goes on behind an exchange: what came of it is neither a full answer nor an abort. -/
def Exchange.IsPassed (e : Exchange) : Prop :=
  (∃ status location body, e.reply = some (.answer status location body) ∧ status ≠ 200) ∨
    ∃ loss text, e.reply = some (.lost loss text)

theorem Exchange.IsPassed.ne_none {e : Exchange} (h : e.IsPassed) : e.reply ≠ none := by
  obtain ⟨_, _, _, h, _⟩ | ⟨_, _, h⟩ := h <;> simp [h]

namespace Call

variable {call : Call} {d : Directory} {w w' : Wire} {e e' : Exchange} {es : List Exchange}
  {v : Visit} {vs : List Visit} {result : Except DispatchError (List UInt8)}

/-! ### Visits that can be made to their end -/

theorem Redirects.isPassed {location : String} (h : call.Redirects e location) : e.IsPassed := by
  obtain ⟨_, _, body, h⟩ := h
  exact .inl ⟨301, some location, body, h, by decide⟩

theorem Redirects.unique {l l' : String} (h : call.Redirects e l) (h' : call.Redirects e l') :
    l = l' := by
  obtain ⟨_, _, _, h⟩ := h
  obtain ⟨_, _, _, h'⟩ := h'
  rw [h] at h'
  cases h'
  rfl

/-- Every exchange of a chain but the last was followed by another. -/
theorem IsChain.exists_follows {redirects : Nat} {url : Url}
    (h : call.IsChain redirects url (es ++ [e])) (he : e' ∈ es) : ∃ e'', call.Follows e' e'' := by
  obtain ⟨before, behind, rfl⟩ := List.append_of_mem he
  have hfollows := h.follows
  cases behind with
  | nil =>
    rw [List.append_assoc, List.singleton_append, List.isChain_split] at hfollows
    exact ⟨e, List.isChain_pair.1 hfollows.2⟩
  | cons e'' behind =>
    simp only [List.append_assoc, List.cons_append, List.isChain_append_cons_cons] at hfollows
    exact ⟨e'', hfollows.2.1⟩

/-- Nothing that a visit needs is missing: every request had a reply, and every place at which it
was to go on, but for one redirect too many, has a URL. -/
structure Resolves (call : Call) (v : Visit) : Prop where
  heard : ∀ e ∈ v.exchanges, e.reply ≠ none
  leads : ∀ e ∈ v.exchanges.take redirectLimit, ∀ location, call.Redirects e location →
    (call.config.redirectUrl? e.url location).isSome

/-- Whether anything is missing is told by the last exchange: all others were followed. -/
theorem resolves_iff_last (hv : call.IsVisit v) (hlast : v.exchanges.getLast? = some e) :
    call.Resolves v ↔ e.reply ≠ none ∧ (v.exchanges.length ≤ redirectLimit →
      ∀ location, call.Redirects e location →
        (call.config.redirectUrl? e.url location).isSome) := by
  obtain ⟨url, -, hchain⟩ := hv
  obtain ⟨es, hes⟩ := List.getLast?_eq_some_iff.1 hlast
  rw [hes] at hchain
  constructor
  · intro h
    refine ⟨h.heard e (by simp [hes]), fun hlen => ?_⟩
    refine h.leads e ?_
    rw [List.take_of_length_le hlen, hes]
    simp
  · rintro ⟨hheard, hleads⟩
    constructor
    · intro x hx
      rw [hes, List.mem_append, List.mem_singleton] at hx
      obtain hx | rfl := hx
      · obtain ⟨y, l, hl, -⟩ := hchain.exists_follows hx
        exact hl.isPassed.ne_none
      · exact hheard
    · intro x hx l hl
      rw [hes, List.take_append, List.mem_append] at hx
      obtain hx | hx := hx
      · obtain ⟨y, l', hl', hy⟩ := hchain.exists_follows (List.mem_of_mem_take hx)
        rw [hl.unique hl', hy]
        rfl
      · -- the last exchange is among those looked at only if it may be followed
        have hlen : v.exchanges.length ≤ redirectLimit := by
          rw [hes, List.length_append, List.length_singleton]
          by_contra hlt
          rw [Nat.sub_eq_zero_of_le (by omega), List.take_zero] at hx
          cases hx
        obtain rfl := List.mem_singleton.1 (List.mem_of_mem_take hx)
        exact hleads hlen l hl

theorem not_redirects {url : Url} {reply : Option Reply} {l : String}
    (h : ∀ location body, reply ≠ some (.answer 301 location body)) :
    ¬ call.Redirects ⟨url, reply⟩ l :=
  fun ⟨_, _, body, hl⟩ => h (some l) body hl

theorem resolves_of_stays (hv : call.IsVisit v) (hlast : v.exchanges.getLast? = some e)
    (hheard : e.reply ≠ none) (hstays : ∀ l, ¬ call.Redirects e l) : call.Resolves v :=
  (resolves_iff_last hv hlast).2 ⟨hheard, fun _ l hl => absurd hl (hstays l)⟩

/-- A visit that can be made to its end is one that does not end for want of a URL. -/
theorem resolves_iff {a : Attempt} (hv : call.IsVisit v)
    (h : call.Yields redirectLimit v.peer v.exchanges a) :
    call.Resolves v ↔ a ≠ .interrupted .unusableUrl := by
  cases h with
  | answered last | lost last | aborted last =>
    have hstays := resolves_of_stays hv last (by simp) fun _ => not_redirects (by simp)
    exact iff_of_true hstays (by simp)
  | refused last _ stays => exact iff_of_true (resolves_of_stays hv last (by simp) stays) (by simp)
  | endless last leads full =>
    refine iff_of_true ((resolves_iff_last hv last).2 ⟨leads.isPassed.ne_none, fun hlen => ?_⟩)
      (by simp)
    omega
  | astray last leads free nowhere =>
    refine iff_of_false (fun h => ?_) (by simp)
    have := ((resolves_iff_last hv last).1 h).2 free _ leads
    simp [nowhere] at this
  | unreadable last _ =>
    exact iff_of_false (fun h => ((resolves_iff_last hv last).1 h).1 rfl) (by simp)

/-! ### What a call comes to -/

/-- All exchanges of a visit but the last are passed. -/
theorem isPassed_of_mem (hv : call.IsVisit v) (hes : v.exchanges = es ++ [e]) (he : e' ∈ es) :
    e'.IsPassed := by
  obtain ⟨url, -, hchain⟩ := hv
  rw [hes] at hchain
  obtain ⟨_, l, hl, -⟩ := hchain.exists_follows he
  exact hl.isPassed

/-- All exchanges of a visit that failed are passed. -/
theorem Fails.isPassed {cause : PeerFailure} (h : call.Fails v cause) (hv : call.IsVisit v)
    (he : e ∈ v.exchanges) : e.IsPassed := by
  have of_last {e' : Exchange} (hlast : v.exchanges.getLast? = some e') (h : e'.IsPassed) :
      e.IsPassed := by
    obtain ⟨es, hes⟩ := List.getLast?_eq_some_iff.1 hlast
    rw [hes, List.mem_append, List.mem_singleton] at he
    obtain he | rfl := he
    · exact isPassed_of_mem hv hes he
    · exact h
  cases h with
  | lost last => exact of_last last (.inr ⟨_, _, rfl⟩)
  | refused last bad _ => exact of_last last (.inl ⟨_, _, _, rfl, bad⟩)
  | endless last leads _ => exact of_last last leads.isPassed

theorem forall_of_failed {causes : List PeerFailure} {P : Visit → Prop}
    (hP : ∀ v cause, call.IsVisit v → call.Fails v cause → P v)
    (hvisits : ∀ v ∈ vs, call.IsVisit v) (h : List.Forall₂ call.Fails vs causes) :
    ∀ v ∈ vs, P v := by
  induction h with
  | nil => simp
  | cons hv _ ih =>
    simp only [List.forall_mem_cons] at hvisits ⊢
    exact ⟨hP _ _ hvisits.1 hv, ih hvisits.2⟩

theorem isPassed_of_failed {causes : List PeerFailure} (hvisits : ∀ v ∈ vs, call.IsVisit v)
    (h : List.Forall₂ call.Fails vs causes) : ∀ e ∈ vs.flatMap (·.exchanges), e.IsPassed := by
  have := forall_of_failed (fun v _ hv h e he => h.isPassed (e := e) hv he) hvisits h
  simpa [List.mem_flatMap] using fun e v hv he => this v hv e he

theorem resolves_of_failed {causes : List PeerFailure} (hvisits : ∀ v ∈ vs, call.IsVisit v)
    (h : List.Forall₂ call.Fails vs causes) : ∀ v ∈ vs, call.Resolves v :=
  forall_of_failed (fun _ _ hv h => (resolves_iff hv h).2 (by simp)) hvisits h

/-- What the visits of a call to the peers of a directory come to: the first full answer, which
nothing follows; an abort, which nothing follows; or every peer was visited and failed, each for
what came of its last exchange. -/
inductive Settles (call : Call) (d : Directory) (vs : List Visit) :
    Except DispatchError (List UInt8) → Prop
  | answered {es : List Exchange} {url : Url} {location : Option String} {body : List UInt8}
      (exchanges : vs.flatMap (·.exchanges) = es ++ [⟨url, some (.answer 200 location body)⟩])
      (passed : ∀ e ∈ es, e.IsPassed) : Settles call d vs (.ok body)
  | aborted {es : List Exchange} {url : Url} {cause : Abort}
      (exchanges : vs.flatMap (·.exchanges) = es ++ [⟨url, some (.aborted cause)⟩])
      (passed : ∀ e ∈ es, e.IsPassed) : Settles call d vs (.error (.interrupted (.aborted cause)))
  | exhausted {causes : List PeerFailure}
      (passed : ∀ e ∈ vs.flatMap (·.exchanges), e.IsPassed) (all : vs.map (·.peer) = d.peers)
      (failed : List.Forall₂ call.Fails vs causes) : Settles call d vs (.error (.exhausted causes))

/-- The exchanges of visits that failed and of one more: all are passed but the last. -/
theorem exists_passed_append {causes : List PeerFailure}
    (hvisits : ∀ u ∈ vs ++ [v], call.IsVisit u) (hfailed : List.Forall₂ call.Fails vs causes)
    (hlast : v.exchanges.getLast? = some e) :
    ∃ es, (vs ++ [v]).flatMap (·.exchanges) = es ++ [e] ∧ ∀ e ∈ es, e.IsPassed := by
  obtain ⟨es, hes⟩ := List.getLast?_eq_some_iff.1 hlast
  simp only [List.mem_append, List.mem_singleton] at hvisits
  refine ⟨vs.flatMap (·.exchanges) ++ es, by simp [hes], fun e he => ?_⟩
  obtain he | he := List.mem_append.1 he
  · exact isPassed_of_failed (fun v hv => hvisits v (.inl hv)) hfailed e he
  · exact isPassed_of_mem (hvisits v (.inr rfl)) hes he

theorem forall_resolves_append {causes : List PeerFailure} {a : Attempt}
    (hvisits : ∀ u ∈ vs ++ [v], call.IsVisit u) (hfailed : List.Forall₂ call.Fails vs causes)
    (h : call.Yields redirectLimit v.peer v.exchanges a) :
    (∀ u ∈ vs ++ [v], call.Resolves u) ↔ a ≠ .interrupted .unusableUrl := by
  simp only [List.forall_mem_append, List.forall_mem_singleton] at hvisits ⊢
  rw [resolves_iff hvisits.2 h]
  exact and_iff_right (resolves_of_failed hvisits.1 hfailed)

/-- A call settles unless it is interrupted for want of a URL. -/
theorem Transcript.settles_iff_ne (h : call.Transcript d w vs result w') :
    call.Settles d vs result ↔ result ≠ .error (.interrupted .unusableUrl) := by
  cases h.concludes with
  | answered failed last =>
    cases last with
    | answered last =>
      obtain ⟨es, hes, hpassed⟩ := exists_passed_append h.visits failed last
      exact iff_of_true (.answered hes hpassed) (by simp)
  | interrupted failed last =>
    cases last with
    | aborted last =>
      obtain ⟨es, hes, hpassed⟩ := exists_passed_append h.visits failed last
      exact iff_of_true (.aborted hes hpassed) (by simp)
    | astray | unreadable => exact iff_of_false nofun (by simp)
  | exhausted failed all =>
    exact iff_of_true (.exhausted (isPassed_of_failed h.visits failed) all failed) (by simp)
  | unassembled => exact iff_of_false nofun (by simp)

/-- Where there is a URL for every peer, nothing but a visit that lacks one interrupts a call so. -/
theorem Transcript.resolves_iff_ne (h : call.Transcript d w vs result w')
    (hpeers : ∀ p ∈ d.peers, (call.config.requestUrl? call.op p call.queue).isSome) :
    (∀ v ∈ vs, call.Resolves v) ↔ result ≠ .error (.interrupted .unusableUrl) := by
  have hvisits := h.visits
  cases h.concludes with
  | answered failed last =>
    rw [forall_resolves_append hvisits failed last]
    simp
  | interrupted failed last =>
    rw [forall_resolves_append hvisits failed last]
    simp
  | exhausted failed _ => exact iff_of_true (resolves_of_failed hvisits failed) (by simp)
  | @unassembled _ _ p _ next noUrl =>
    have := hpeers p (next.subset (by simp))
    simp [noUrl] at this

/-- The first visit of a call is one of the first peer. -/
theorem Transcript.first_peer {p : Peer} (h : call.Transcript d w (v :: vs) result w')
    (hp : d.peers.head? = some p) : v.peer = p := by
  obtain ⟨rest, hrest⟩ := h.order
  rw [← hrest] at hp
  simpa using hp

/-- A call to peers that all have URLs begins with a visit of the first of them. -/
theorem Transcript.exists_first {p : Peer} (h : call.Transcript d w vs result w')
    (hpeers : ∀ p ∈ d.peers, (call.config.requestUrl? call.op p call.queue).isSome)
    (hp : d.peers.head? = some p) : ∃ v behind, vs = v :: behind ∧ v.peer = p := by
  have hne : vs ≠ [] := by
    cases h.concludes with
    | answered | interrupted => simp
    | exhausted _ all =>
      rintro rfl
      simp [← all] at hp
    | @unassembled _ _ q _ next noUrl =>
      have := hpeers q (next.subset (by simp))
      simp [noUrl] at this
  obtain ⟨v, behind, rfl⟩ := List.exists_cons_of_ne_nil hne
  exact ⟨v, behind, rfl, h.first_peer hp⟩

theorem Fails.peer {cause : PeerFailure} (h : call.Fails v cause) : cause.peer = v.peer.text := by
  cases h <;> rfl

theorem map_peer_of_failed {causes : List PeerFailure} (h : List.Forall₂ call.Fails vs causes) :
    causes.map (·.peer) = (vs.map (·.peer)).map (·.text) := by
  induction h with
  | nil => rfl
  | cons hv _ ih => simp [hv.peer, ih]

/-- Nothing aborts a call that comes to a full answer. -/
theorem Settles.quiet {body : List UInt8} (h : call.Settles d vs (.ok body)) :
    ∀ e ∈ vs.flatMap (·.exchanges), ∀ cause, e.reply ≠ some (.aborted cause) := by
  cases h with
  | answered exchanges passed =>
    intro e he cause
    rw [exchanges, List.mem_append, List.mem_singleton] at he
    obtain he | rfl := he
    · obtain ⟨_, _, _, h, -⟩ | ⟨_, _, h⟩ := passed e he <;> simp [h]
    · simp

/-- A call that settles without an abort has a full answer or a failure for every peer. -/
theorem Settles.answers_or_exhausts (h : call.Settles d vs result)
    (hquiet : ∀ e ∈ vs.flatMap (·.exchanges), ∀ cause, e.reply ≠ some (.aborted cause)) :
    (∃ e ∈ vs.flatMap (·.exchanges), ∃ location body,
        e.reply = some (.answer 200 location body) ∧ result = .ok body) ∨
      ∃ causes, result = .error (.exhausted causes) ∧
        causes.map (·.peer) = d.peers.map (·.text) := by
  cases h with
  | answered exchanges _ =>
    have := exchanges ▸ List.mem_append_right _ (List.mem_singleton_self _)
    exact .inl ⟨_, this, _, _, rfl, rfl⟩
  | aborted exchanges _ =>
    have := exchanges ▸ List.mem_append_right _ (List.mem_singleton_self _)
    exact absurd rfl (hquiet _ this _)
  | exhausted _ all failed => exact .inr ⟨_, rfl, by rw [map_peer_of_failed failed, all]⟩

/-- Statements are posted to every place in the same way: with the body of the call, as JSON, and
without leaving redirects to the transport. -/
theorem Exchanged.posts (h : call.Exchanged w es w') (hop : call.op.takesStatements = true) :
    ∀ r ∈ w'.sent.drop w.sent.length, r = .post r.url call.body := by
  rw [h.sent, List.drop_left]
  intro r hr
  obtain ⟨e, -, rfl⟩ := List.mem_map.1 hr
  simp [Request.of, hop, Request.url]

/-- A call visits the peers of a directory in their order, each in a chain of at most eleven
requests that starts at the peer and follows its redirects. Where every request is replied to and
every redirect leads somewhere, it comes to the first full answer, to an abort, or to one failure
for each peer. -/
theorem dispatch_settles (call : Call) (d : Directory) (w : Wire)
    (hpeers : ∀ p ∈ d.peers, (call.config.requestUrl? call.op p call.queue).isSome) :
    ∃ vs, call.Transcript d w vs (call.dispatch d w).1 (call.dispatch d w).2 ∧
      (∀ v ∈ vs, v.exchanges.length ≤ 11) ∧
      (call.op.takesStatements → ∀ r ∈ (call.dispatch d w).2.sent.drop w.sent.length,
        r = .post r.url call.body) ∧
      ((∀ v ∈ vs, call.Resolves v) → call.Settles d vs (call.dispatch d w).1) := by
  obtain ⟨vs, h⟩ := exists_transcript call d w
  refine ⟨vs, h, fun v hv => ?_, h.exchanged.posts, fun hvs => ?_⟩
  · obtain ⟨url, -, hchain⟩ := h.visits v hv
    exact hchain.length_le
  · exact h.settles_iff_ne.2 ((h.resolves_iff_ne hpeers).1 hvs)

/-- A write without statements. -/
def emptyWrite : Call := { config := {}, op := .write, body := some "[]" }

/-- Two nodes, the first of which leads. -/
def twoNodes : Directory := ⟨some ⟨"a1", "4001"⟩, [⟨"b1", "4001"⟩]⟩

/-- Two nodes on a wire, of which the first sends writes on to a place and the second answers. -/
def sentOn (location : String) : Wire :=
  .ofNetwork [("a1:4001", [("/db/execute", [.answer 301 (some location) []])]),
    ("b1:4001", [("/db/execute", [.answer 200 none [91, 93]])])]

theorem dispatch_settles_redirected :
    ∃ vs, emptyWrite.Transcript twoNodes (sentOn "http://b1:4001/db/execute") vs (.ok [91, 93])
        (emptyWrite.dispatch twoNodes (sentOn "http://b1:4001/db/execute")).2 ∧
      (∀ v ∈ vs, emptyWrite.Resolves v) ∧ emptyWrite.Settles twoNodes vs (.ok [91, 93]) := by
  have hpeers : ∀ p ∈ twoNodes.peers,
      (emptyWrite.config.requestUrl? emptyWrite.op p emptyWrite.queue).isSome := by decide +kernel
  have hresult : (emptyWrite.dispatch twoNodes (sentOn "http://b1:4001/db/execute")).1 =
      .ok [91, 93] := by decide +kernel
  obtain ⟨vs, h, -, -, hsettles⟩ :=
    dispatch_settles emptyWrite twoNodes (sentOn "http://b1:4001/db/execute") hpeers
  rw [hresult] at h hsettles
  have hresolves : ∀ v ∈ vs, emptyWrite.Resolves v := (h.resolves_iff_ne hpeers).2 (by simp)
  exact ⟨vs, h, hresolves, hsettles hresolves⟩

/-! ### What one node can do to a call -/

/-- A call that nothing aborts gives a full answer or tries every peer, exactly if every request is
replied to and every redirect leads somewhere. Else it is interrupted where this fails. -/
theorem dispatch_answers_or_exhausts_iff (call : Call) (d : Directory) (w : Wire)
    (hpeers : ∀ p ∈ d.peers, (call.config.requestUrl? call.op p call.queue).isSome) :
    ∃ vs, call.Transcript d w vs (call.dispatch d w).1 (call.dispatch d w).2 ∧
      ((∀ v ∈ vs, ∀ e ∈ v.exchanges, ∀ cause, e.reply ≠ some (.aborted cause)) →
        (((∃ e ∈ vs.flatMap (·.exchanges), ∃ location body,
              e.reply = some (.answer 200 location body) ∧ (call.dispatch d w).1 = .ok body) ∨
            ∃ causes, (call.dispatch d w).1 = .error (.exhausted causes) ∧
              causes.map (·.peer) = d.peers.map (·.text)) ↔
          ∀ v ∈ vs, call.Resolves v) ∧
        ((¬ ∀ v ∈ vs, call.Resolves v) →
          (call.dispatch d w).1 = .error (.interrupted .unusableUrl))) := by
  obtain ⟨vs, h⟩ := exists_transcript call d w
  refine ⟨vs, h, fun hquiet => ?_⟩
  rw [h.resolves_iff_ne hpeers]
  refine ⟨⟨?_, fun hne => ?_⟩, fun hne => not_ne_iff.1 hne⟩
  · rintro (⟨_, _, _, _, _, hr⟩ | ⟨_, hr, _⟩) <;> simp [hr]
  · refine (h.settles_iff_ne.2 hne).answers_or_exhausts fun e he => ?_
    obtain ⟨v, hv, he⟩ := List.mem_flatMap.1 he
    exact hquiet v hv e he

theorem dispatch_answers_or_exhausts_iff_circular :
    ∃ vs, emptyWrite.Transcript twoNodes (sentOn "/db/execute") vs (.ok [91, 93])
        (emptyWrite.dispatch twoNodes (sentOn "/db/execute")).2 ∧
      (∀ v ∈ vs, emptyWrite.Resolves v) ∧
      ∃ e ∈ vs.flatMap (·.exchanges), ∃ location,
        e.reply = some (.answer 200 location [91, 93]) := by
  have hpeers : ∀ p ∈ twoNodes.peers,
      (emptyWrite.config.requestUrl? emptyWrite.op p emptyWrite.queue).isSome := by decide +kernel
  have hresult : (emptyWrite.dispatch twoNodes (sentOn "/db/execute")).1 = .ok [91, 93] := by
    decide +kernel
  obtain ⟨vs, h, hends⟩ :=
    dispatch_answers_or_exhausts_iff emptyWrite twoNodes (sentOn "/db/execute") hpeers
  rw [hresult] at h hends
  have hresolves : ∀ v ∈ vs, emptyWrite.Resolves v := (h.resolves_iff_ne hpeers).2 (by simp)
  have hquiet := (h.settles_iff_ne.2 (by simp)).quiet
  obtain ⟨hanswers, -⟩ := hends fun v hv e he => hquiet e (List.mem_flatMap.2 ⟨v, hv, he⟩)
  refine ⟨vs, h, hresolves, ?_⟩
  obtain ⟨e, he, location, body, hreply, hbody⟩ | ⟨causes, hcauses, -⟩ := hanswers.2 hresolves
  · cases hbody
    exact ⟨e, he, location, hreply⟩
  · cases hcauses

/-- One node that names a place whose port is no number ends a call that the next node would
answer. -/
theorem dispatch_interrupted_by_location :
    (∀ p ∈ twoNodes.peers,
      (emptyWrite.config.requestUrl? emptyWrite.op p emptyWrite.queue).isSome) ∧
    (emptyWrite.dispatch twoNodes (sentOn "http://h2:bad/")).1 =
      .error (.interrupted .unusableUrl) ∧
    (emptyWrite.dispatch twoNodes (sentOn "http://h2:bad/")).2.sent.length = 1 := by
  refine ⟨?_, ?_, ?_⟩ <;> decide +kernel

end Call

end SqlCluster
