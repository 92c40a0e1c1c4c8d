import Mathlib.Data.List.Chain
import Mathlib.Data.List.Forall2
import SqlCluster.Dispatch

/-!
Transcripts of calls. A call visits peers of its directory in their order, and a visit is a chain of
exchanges: the first at the URL of the operation at the peer, each other one at the place that the
reply before it named. `Call.Transcript` says what a call sent, what came of it and how the call
ended for it; `exists_transcript` gives every call its transcript. The induction on the redirects
that are left (`exists_chain`) stands inside the one on the peers that are left (`exists_visits`).
-/

namespace SqlCluster

/-! ### Replies one after the other -/

namespace Network

/-- What comes of a request at a URL, and the network after it. Nothing comes of one to a host whose
name cannot be read. -/
def ask (n : Network) (u : Url) : Option Reply × Network :=
  match u.host? with
  | none => (none, n)
  | some host =>
    let (reply, n) := n.reply (address host u.port?) (String.ofList u.pathText)
    (some reply, n)

/-- What comes of requests at URLs one after the other, and the network after them. -/
def askAll : Network → List Url → List (Option Reply) × Network
  | n, [] => ([], n)
  | n, u :: us => ((n.ask u).1 :: (askAll (n.ask u).2 us).1, (askAll (n.ask u).2 us).2)

theorem host?_eq_none_of_ask {n : Network} {u : Url} (h : (n.ask u).1 = none) : u.host? = none := by
  rw [ask] at h
  split at h
  · assumption
  · cases h

theorem askAll_append (n : Network) (us vs : List Url) :
    n.askAll (us ++ vs) =
      ((n.askAll us).1 ++ ((n.askAll us).2.askAll vs).1, ((n.askAll us).2.askAll vs).2) := by
  induction us generalizing n with
  | nil => rfl
  | cons u us ih => simp [askAll, ih]

end Network

theorem Wire.exchange_eq (w : Wire) (r : Request) :
    w.exchange r = ((w.network.ask r.url).1,
      { w with sent := w.sent ++ [r], network := (w.network.ask r.url).2 }) := by
  cases h : r.url.host? <;> simp [exchange, Network.ask, h]

/-! ### Chains of exchanges -/

/-- A request of a call: where it went, and what came of it. -/
structure Exchange where
  url : Url
  reply : Option Reply

/-- What one peer was asked in a call. -/
structure Visit where
  peer : Peer
  exchanges : List Exchange

namespace Call

variable {call : Call} {w w' w'' : Wire} {es es' : List Exchange}

/-- The exchanges that a call had between two states of a wire: one request of the call after the
other, each with the reply that was its turn. -/
structure Exchanged (call : Call) (w : Wire) (es : List Exchange) (w' : Wire) : Prop where
  sent : w'.sent = w.sent ++ es.map fun e => .of call.op call.body e.url
  replies : w.network.askAll (es.map (·.url)) = (es.map (·.reply), w'.network)

theorem Exchanged.nil (call : Call) (w : Wire) : call.Exchanged w [] w := ⟨by simp, rfl⟩

theorem Exchanged.noteBefore {n : Note} (h : call.Exchanged (w.note n) es w') :
    call.Exchanged w es w' := ⟨h.sent, h.replies⟩

theorem Exchanged.noteAfter (n : Note) (h : call.Exchanged w es w') :
    call.Exchanged w es (w'.note n) := ⟨h.sent, h.replies⟩

theorem Exchanged.append (h : call.Exchanged w es w') (h' : call.Exchanged w' es' w'') :
    call.Exchanged w (es ++ es') w'' := by
  refine ⟨by simp [h'.sent, h.sent], ?_⟩
  rw [List.map_append, Network.askAll_append, h.replies, h'.replies, List.map_append]

/-- What came of sending the request of a call, whatever was noted before it. -/
theorem exchanged_of_exchange {n : Note} {url : Url} {reply : Option Reply}
    (h : (w.note n).exchange (.of call.op call.body url) = (reply, w')) :
    call.Exchanged w [⟨url, reply⟩] w' := by
  rw [Wire.exchange_eq, Request.url_of, Prod.mk.injEq] at h
  obtain ⟨rfl, rfl⟩ := h
  exact ⟨rfl, rfl⟩

theorem host?_eq_none_of_exchange {n : Note} {url : Url}
    (h : (w.note n).exchange (.of call.op call.body url) = (none, w')) : url.host? = none := by
  rw [Wire.exchange_eq, Request.url_of, Prod.mk.injEq] at h
  exact Network.host?_eq_none_of_ask h.1

/-- The reply of an exchange names a place at which the call is to go on: only statements that may
write are sent on, and only by a status of 301 that tells where. -/
def Redirects (call : Call) (e : Exchange) (location : String) : Prop :=
  (call.op = .write ∨ call.op = .request) ∧ location ≠ "" ∧
    ∃ body, e.reply = some (.answer 301 (some location) body)

/-- An exchange takes place where the one before it was redirected to. -/
def Follows (call : Call) (e e' : Exchange) : Prop :=
  ∃ location, call.Redirects e location ∧
    call.config.redirectUrl? e.url location = some e'.url

/-- Exchanges from a URL on with at most so many redirects that were followed. -/
structure IsChain (call : Call) (redirects : Nat) (url : Url) (es : List Exchange) : Prop where
  start : es.head?.map (·.url) = some url
  follows : es.IsChain call.Follows
  length_le : es.length ≤ redirects + 1

/-- What came of asking a peer in exchanges of which at most so many were redirected: it is told by
the last of them. -/
inductive Yields (call : Call) (redirects : Nat) (peer : Peer) (es : List Exchange) : Attempt → Prop
  | answered {url : Url} {location : Option String} {body : List UInt8}
      (last : es.getLast? = some ⟨url, some (.answer 200 location body)⟩) :
      Yields call redirects peer es (.answered body)
  | lost {url : Url} {loss : Loss} {text : Option String}
      (last : es.getLast? = some ⟨url, some (.lost loss text)⟩) :
      Yields call redirects peer es (.failed ⟨peer.text, url.shown, loss.reason text⟩)
  | refused {url : Url} {status : Int} {location : Option String} {body : List UInt8}
      (last : es.getLast? = some ⟨url, some (.answer status location body)⟩) (bad : status ≠ 200)
      (stays : ∀ l, ¬ call.Redirects ⟨url, some (.answer status location body)⟩ l) :
      Yields call redirects peer es (.failed ⟨peer.text, url.shown, "got status " ++ status.repr⟩)
  | endless {url : Url} {reply : Option Reply} {location : String}
      (last : es.getLast? = some ⟨url, reply⟩) (leads : call.Redirects ⟨url, reply⟩ location)
      (full : es.length = redirects + 1) :
      Yields call redirects peer es (.failed ⟨peer.text, url.shown, "too many redirects"⟩)
  | aborted {url : Url} {cause : Abort} (last : es.getLast? = some ⟨url, some (.aborted cause)⟩) :
      Yields call redirects peer es (.interrupted (.aborted cause))
  | astray {url : Url} {reply : Option Reply} {location : String}
      (last : es.getLast? = some ⟨url, reply⟩) (leads : call.Redirects ⟨url, reply⟩ location)
      (free : es.length ≤ redirects) (nowhere : call.config.redirectUrl? url location = none) :
      Yields call redirects peer es (.interrupted .unusableUrl)
  | unreadable {url : Url} (last : es.getLast? = some ⟨url, none⟩) (host : url.host? = none) :
      Yields call redirects peer es (.interrupted .unusableUrl)

theorem redirection?_eq_some {status : Int} {location : Option String} {l : String} :
    call.redirection? status location = some l ↔
      status = 301 ∧ (call.op = .write ∨ call.op = .request) ∧ location = some l ∧ l ≠ "" := by
  have hop : call.op.followsRedirects = true ↔ call.op = .write ∨ call.op = .request := by
    cases call.op <;> simp [Operation.followsRedirects]
  rw [redirection?]
  split
  · next h => simp [Option.filter_eq_some_iff, h.1, hop.1 h.2]
  · next h =>
    rw [hop] at h
    simp only [reduceCtorEq, false_iff]
    exact fun ⟨hs, ho, _⟩ => h ⟨hs, ho⟩

theorem redirects_iff {url : Url} {status : Int} {location : Option String} {body : List UInt8}
    {l : String} :
    call.Redirects ⟨url, some (.answer status location body)⟩ l ↔
      call.redirection? status location = some l := by
  rw [redirection?_eq_some]
  constructor
  · rintro ⟨hop, hl, _, hr⟩
    cases hr
    exact ⟨rfl, hop, rfl, hl⟩
  · rintro ⟨rfl, hop, rfl, hl⟩
    exact ⟨hop, hl, body, rfl⟩

/-- An answer that names no place to go on at is a full answer or a failure. -/
theorem yields_conclude {redirects : Nat} {peer : Peer} {url : Url} {status : Int}
    {location : Option String} {body : List UInt8}
    (hlast : es.getLast? = some ⟨url, some (.answer status location body)⟩)
    (hstay : call.redirection? status location = none) :
    call.Yields redirects peer es (conclude peer url status body w).1 := by
  by_cases h : status = 200
  · subst h
    simp only [conclude, if_true]
    exact .answered hlast
  · simp only [conclude, if_neg h]
    refine .refused hlast h fun l hl => ?_
    rw [redirects_iff, hstay] at hl
    cases hl

/-- An exchange in front that was redirected uses up one redirect. -/
theorem Yields.cons {redirects : Nat} {peer : Peer} {a : Attempt} (e : Exchange) (hes : es ≠ [])
    (h : call.Yields redirects peer es a) : call.Yields (redirects + 1) peer (e :: es) a := by
  have hlast : (e :: es).getLast? = es.getLast? := by
    cases es with
    | nil => exact absurd rfl hes
    | cons e' es => simp [List.getLast?_cons_cons]
  cases h with
  | answered last => exact .answered (hlast ▸ last)
  | lost last => exact .lost (hlast ▸ last)
  | refused last bad stays => exact .refused (hlast ▸ last) bad stays
  | endless last leads full => exact .endless (hlast ▸ last) leads (by simp [full])
  | aborted last => exact .aborted (hlast ▸ last)
  | astray last leads free nowhere =>
    exact .astray (hlast ▸ last) leads (by simpa using free) nowhere
  | unreadable last host => exact .unreadable (hlast ▸ last) host

theorem IsChain.single (call : Call) (redirects : Nat) (e : Exchange) :
    call.IsChain redirects e.url [e] :=
  ⟨rfl, List.isChain_singleton e, by simp⟩

theorem IsChain.cons {redirects : Nat} {e : Exchange} {location : String} {target : Url}
    (hl : call.Redirects e location) (ht : call.config.redirectUrl? e.url location = some target)
    (h : call.IsChain redirects target es) : call.IsChain (redirects + 1) e.url (e :: es) := by
  obtain ⟨hstart, hfollows, hle⟩ := h
  cases es with
  | nil => simp at hstart
  | cons e' es =>
    obtain rfl : e'.url = target := by simpa using hstart
    exact ⟨rfl, List.isChain_cons_cons.2 ⟨⟨location, hl, ht⟩, hfollows⟩, by simpa using hle⟩

theorem IsChain.ne_nil {redirects : Nat} {url : Url} (h : call.IsChain redirects url es) :
    es ≠ [] := by
  rintro rfl
  simpa using h.start

/-- Asking a peer at a URL is a chain of exchanges from there, and comes to what they yield. The
induction is on the redirects that are left. -/
theorem exists_chain (call : Call) (place : Nat) (peer : Peer) (redirects : Nat) (url : Url)
    (w : Wire) :
    ∃ es, call.IsChain redirects url es ∧
      call.Exchanged w es (call.ask place peer redirects url w).2 ∧
      call.Yields redirects peer es (call.ask place peer redirects url w).1 := by
  fun_induction Call.ask call place peer redirects url w with
  | case1 redirects url w w' h =>
    exact ⟨_, .single call redirects ⟨url, none⟩, exchanged_of_exchange h,
      .unreadable rfl (host?_eq_none_of_exchange h)⟩
  | case2 redirects url w cause w' h =>
    exact ⟨_, .single call redirects ⟨url, _⟩, exchanged_of_exchange h, .aborted rfl⟩
  | case3 redirects url w loss text w' h =>
    exact ⟨_, .single call redirects ⟨url, _⟩, (exchanged_of_exchange h).noteAfter _, .lost rfl⟩
  | case4 redirects url w status location body w' h hstay =>
    refine ⟨_, .single call redirects ⟨url, _⟩, ?_, yields_conclude rfl hstay⟩
    rw [conclude]
    split <;> exact (exchanged_of_exchange h).noteAfter _
  | case5 url w status location body w' h l hl =>
    exact ⟨_, .single call 0 ⟨url, _⟩, exchanged_of_exchange h,
      .endless rfl (redirects_iff.2 hl) rfl⟩
  | case6 url w status location body w' h l hl redirects hnone =>
    exact ⟨_, .single call (redirects + 1) ⟨url, _⟩, exchanged_of_exchange h,
      .astray rfl (redirects_iff.2 hl) (by simp) hnone⟩
  | case7 url w status location body w' h l hl redirects target ht ih =>
    obtain ⟨es, hchain, hes, hyields⟩ := ih
    exact ⟨_, .cons (e := ⟨url, _⟩) (redirects_iff.2 hl) ht hchain,
      (exchanged_of_exchange h).append hes.noteBefore, hyields.cons _ hchain.ne_nil⟩

/-! ### Visits -/

/-- A visit of a peer: a chain of exchanges from the URL of the operation at the peer. -/
def IsVisit (call : Call) (v : Visit) : Prop :=
  ∃ url, call.config.requestUrl? call.op v.peer call.queue = some url ∧
    call.IsChain redirectLimit url v.exchanges

/-- A visit after which its peer is passed over for a cause. -/
def Fails (call : Call) (v : Visit) (cause : PeerFailure) : Prop :=
  call.Yields redirectLimit v.peer v.exchanges (.failed cause)

/-- How a call to the peers of a directory ends for its visits. All visits but the last failed. The
last one gave a full answer or interrupted the call, or it failed too: then every peer was visited,
unless there is no URL for the next one. -/
inductive Concludes (call : Call) (d : Directory) :
    List Visit → Except DispatchError (List UInt8) → Prop
  | answered {vs : List Visit} {causes : List PeerFailure} {v : Visit} {body : List UInt8}
      (failed : List.Forall₂ call.Fails vs causes)
      (last : call.Yields redirectLimit v.peer v.exchanges (.answered body)) :
      Concludes call d (vs ++ [v]) (.ok body)
  | interrupted {vs : List Visit} {causes : List PeerFailure} {v : Visit} {cause : Interruption}
      (failed : List.Forall₂ call.Fails vs causes)
      (last : call.Yields redirectLimit v.peer v.exchanges (.interrupted cause)) :
      Concludes call d (vs ++ [v]) (.error (.interrupted cause))
  | exhausted {vs : List Visit} {causes : List PeerFailure}
      (failed : List.Forall₂ call.Fails vs causes) (all : vs.map (·.peer) = d.peers) :
      Concludes call d vs (.error (.exhausted causes))
  | unassembled {vs : List Visit} {causes : List PeerFailure} {p : Peer}
      (failed : List.Forall₂ call.Fails vs causes)
      (next : vs.map (·.peer) ++ [p] <+: d.peers)
      (noUrl : call.config.requestUrl? call.op p call.queue = none) :
      Concludes call d vs (.error (.interrupted .unusableUrl))

/-- The visits of a call to the peers of a directory: in the order of the directory, with all that
was sent and all replies to it, and the result that follows from them. -/
structure Transcript (call : Call) (d : Directory) (w : Wire) (vs : List Visit)
    (result : Except DispatchError (List UInt8)) (w' : Wire) : Prop where
  order : vs.map (·.peer) <+: d.peers
  visits : ∀ v ∈ vs, call.IsVisit v
  exchanged : call.Exchanged w (vs.flatMap (·.exchanges)) w'
  concludes : call.Concludes d vs result

/-- Asking the next peer at its URL is a visit of it. -/
theorem exists_visit {call : Call} {place : Nat} {p : Peer} {url : Url} {n : Note} {a : Attempt}
    (hurl : call.config.requestUrl? call.op p call.queue = some url)
    (hask : call.ask place p redirectLimit url (w.note n) = (a, w')) :
    ∃ es, call.IsVisit ⟨p, es⟩ ∧ call.Exchanged w es w' ∧ call.Yields redirectLimit p es a := by
  obtain ⟨es, hchain, hes, hyields⟩ := exists_chain call place p redirectLimit url (w.note n)
  rw [hask] at hes hyields
  exact ⟨es, ⟨url, hurl, hchain⟩, hes.noteBefore, hyields⟩

/-- Going on with the peers that are left, behind visits that failed, completes their transcript.
The induction is on the peers that are left. -/
theorem exists_visits (call : Call) (d : Directory) (place : Nat) (ps : List Peer)
    (causes : List PeerFailure) (w : Wire) (before : List Visit)
    (horder : before.map (·.peer) ++ ps = d.peers)
    (hfailed : List.Forall₂ call.Fails before causes) :
    ∃ vs, vs.map (·.peer) <+: ps ∧ (∀ v ∈ vs, call.IsVisit v) ∧
      call.Exchanged w (vs.flatMap (·.exchanges)) (call.walk place ps causes w).2 ∧
      call.Concludes d (before ++ vs) (call.walk place ps causes w).1 := by
  fun_induction Call.walk call place ps causes w generalizing before with
  | case1 place causes w =>
    refine ⟨[], List.prefix_rfl, by simp, .nil call w, ?_⟩
    rw [List.append_nil] at horder ⊢
    exact .exhausted hfailed horder
  | case2 place p ps causes w hnone =>
    refine ⟨[], List.nil_prefix, by simp, .nil call w, ?_⟩
    rw [List.append_nil]
    exact .unassembled hfailed ⟨ps, by simp [← horder]⟩ hnone
  | case3 place p ps causes w url hurl body w' hask =>
    obtain ⟨es, hvisit, hes, hyields⟩ := exists_visit hurl hask
    exact ⟨[⟨p, es⟩], by simp, by simpa using hvisit, by simpa using hes,
      .answered hfailed hyields⟩
  | case4 place p ps causes w url hurl cause w' hask ih =>
    -- the visit failed, so it is one more of those before
    obtain ⟨es, hvisit, hes, hyields⟩ := exists_visit hurl hask
    have hfails : List.Forall₂ call.Fails (before ++ [⟨p, es⟩]) (causes ++ [cause]) :=
      List.rel_append hfailed (.cons hyields .nil)
    obtain ⟨vs, hprefix, hvisits, hvs, hconcludes⟩ := ih _ (by simp [← horder]) hfails
    refine ⟨⟨p, es⟩ :: vs, by simpa using hprefix, by simpa using ⟨hvisit, hvisits⟩,
      by simpa using hes.append hvs, ?_⟩
    rwa [List.append_assoc] at hconcludes
  | case5 place p ps causes w url hurl cause w' hask =>
    obtain ⟨es, hvisit, hes, hyields⟩ := exists_visit hurl hask
    exact ⟨[⟨p, es⟩], by simp, by simpa using hvisit, by simpa using hes,
      .interrupted hfailed hyields⟩

/-- Every call has a transcript. -/
theorem exists_transcript (call : Call) (d : Directory) (w : Wire) :
    ∃ vs, call.Transcript d w vs (call.dispatch d w).1 (call.dispatch d w).2 := by
  obtain ⟨vs, horder, hvisits, hvs, hconcludes⟩ :=
    exists_visits call d 0 d.peers [] (w.note (.dispatching call.op d.peers.length)) [] rfl .nil
  exact ⟨vs, horder, hvisits, hvs.noteBefore, hconcludes⟩

end Call

end SqlCluster
