import SqlCluster.Discovery
import SqlCluster.Proofs.Password.Url

/-!
Calls that differ in a password. Calls that are the same but for the password of their configuration
get the same results from the same network and leave the same notes, and what they send differs in
passwords only. The second call is followed along the recursion of the first one.
-/

namespace SqlCluster

theorem exists_of_rel {α β : Type} {r : α → β → Prop} {x : Option α} {y : Option β} {a : α}
    (h : Option.Rel r x y) (hx : x = some a) : ∃ b, y = some b ∧ r a b := by
  subst hx
  cases h with
  | some h => exact ⟨_, rfl, h⟩

theorem eq_none_of_rel {α β : Type} {r : α → β → Prop} {x : Option α} {y : Option β}
    (h : Option.Rel r x y) (hx : x = none) : y = none := by
  subst hx
  cases h
  rfl

/-! ### Wires -/

namespace Wire

/-- Wires over which the same was sent, but for the passwords in requests. -/
structure Twins (w w' : Wire) : Prop where
  network : w.network = w'.network
  notes : w.notes = w'.notes
  sent : w.sent.map Request.blinded = w'.sent.map Request.blinded

/-- The same results, over wires that are twins. -/
def Agree {α : Type} (x y : α × Wire) : Prop := x.1 = y.1 ∧ x.2.Twins y.2

variable {w w' w₁ : Wire}

theorem Agree.exists_eq {α : Type} {x y : α × Wire} {a : α} (h : Agree x y) (hx : x = (a, w₁)) :
    ∃ w₁', y = (a, w₁') ∧ w₁.Twins w₁' := by
  obtain ⟨b, w₁'⟩ := y
  obtain ⟨heq, hw⟩ := h
  subst hx
  obtain rfl : a = b := heq
  exact ⟨w₁', rfl, hw⟩

theorem Twins.refl (w : Wire) : w.Twins w := ⟨rfl, rfl, rfl⟩

theorem Twins.note (h : w.Twins w') (n : Note) : (w.note n).Twins (w'.note n) :=
  ⟨h.network, by simp [Wire.note, h.notes], h.sent⟩

/-- Requests to twins get the same reply. -/
theorem Twins.exists_exchange {u u' : Url} {op : Operation} {body : Option String}
    {reply : Option Reply} (h : w.Twins w') (hu : u.Twins u')
    (hx : w.exchange (.of op body u) = (reply, w₁)) :
    ∃ w₁', w'.exchange (.of op body u') = (reply, w₁') ∧ w₁.Twins w₁' := by
  have hsent : (w.sent ++ [Request.of op body u]).map Request.blinded =
      (w'.sent ++ [Request.of op body u']).map Request.blinded := by
    simp [h.sent, Request.blinded_of_twins hu]
  simp only [exchange, Request.url_of] at hx ⊢
  rw [← hu.host?_eq, ← hu.port?_eq, ← hu.pathText_eq, ← h.network]
  cases hhost : u.host? with
  | none =>
    rw [hhost] at hx
    cases hx
    exact ⟨_, rfl, rfl, h.notes, hsent⟩
  | some host =>
    rw [hhost] at hx
    cases hx
    exact ⟨_, rfl, rfl, h.notes, hsent⟩

end Wire

/-! ### Calls -/

namespace Call

open Wire (Agree)

/-- Calls that are the same but for the passwords of their configurations. -/
structure Twins (call call' : Call) : Prop where
  config : call.config.Twins call'.config
  op : call'.op = call.op
  body : call'.body = call.body
  queue : call'.queue = call.queue

variable {call call' : Call} {w w' : Wire}

theorem Twins.redirection?_eq (h : call.Twins call') : call'.redirection? = call.redirection? := by
  funext status location
  rw [redirection?, redirection?, h.op]

theorem Twins.ask {u u' : Url} (h : call.Twins call') (place : Nat) (peer : Peer) (redirects : Nat)
    (hu : u.Twins u') (hw : w.Twins w') :
    Agree (call.ask place peer redirects u w) (call'.ask place peer redirects u' w') := by
  fun_induction Call.ask call place peer redirects u w generalizing u' w' with
  | case1 redirects u w w₁ hx =>
    obtain ⟨w₁', hx', hw₁⟩ := (hw.note _).exists_exchange hu hx
    rw [Call.ask, h.op, h.body, hx']
    exact ⟨rfl, hw₁⟩
  | case2 redirects u w cause w₁ hx =>
    obtain ⟨w₁', hx', hw₁⟩ := (hw.note _).exists_exchange hu hx
    rw [Call.ask, h.op, h.body, hx']
    exact ⟨rfl, hw₁⟩
  | case3 redirects u w loss text w₁ hx =>
    obtain ⟨w₁', hx', hw₁⟩ := (hw.note _).exists_exchange hu hx
    rw [Call.ask, h.op, h.body, hx', hu.shown_eq]
    exact ⟨rfl, hw₁.note _⟩
  | case4 redirects u w status location body w₁ hx hstay =>
    obtain ⟨w₁', hx', hw₁⟩ := (hw.note _).exists_exchange hu hx
    rw [Call.ask, h.op, h.body, hx']
    simp only [h.redirection?_eq, hstay, conclude, ← hu.shown_eq]
    split <;> exact ⟨rfl, hw₁.note _⟩
  | case5 u w status location body w₁ hx l hl =>
    obtain ⟨w₁', hx', hw₁⟩ := (hw.note _).exists_exchange hu hx
    rw [Call.ask, h.op, h.body, hx']
    simp only [h.redirection?_eq, hl, ← hu.shown_eq]
    exact ⟨rfl, hw₁⟩
  | case6 u w status location body w₁ hx l hl redirects hnone =>
    obtain ⟨w₁', hx', hw₁⟩ := (hw.note _).exists_exchange hu hx
    rw [Call.ask, h.op, h.body, hx']
    simp only [h.redirection?_eq, hl, eq_none_of_rel (h.config.redirectUrl? hu l) hnone]
    exact ⟨rfl, hw₁⟩
  | case7 u w status location body w₁ hx l hl redirects target ht ih =>
    obtain ⟨w₁', hx', hw₁⟩ := (hw.note _).exists_exchange hu hx
    obtain ⟨target', ht', htarget⟩ := exists_of_rel (h.config.redirectUrl? hu l) ht
    rw [Call.ask.eq_def call']
    -- the notes of a redirect show the URLs on both sides of it
    simp only [h.op, h.body, hx', h.redirection?_eq, hl, ht', ← hu.shown_eq, ← htarget.shown_eq]
    exact ih htarget (hw₁.note _)

theorem Twins.walk (h : call.Twins call') (place : Nat) (ps : List Peer) (causes : List PeerFailure)
    (hw : w.Twins w') : Agree (call.walk place ps causes w) (call'.walk place ps causes w') := by
  fun_induction Call.walk call place ps causes w generalizing w' with
  | case1 place causes w => exact ⟨rfl, hw⟩
  | case2 place p ps causes w hnone =>
    have hnone' := eq_none_of_rel (h.config.requestUrl? call.op p call.queue) hnone
    rw [Call.walk, h.op, h.queue, hnone']
    exact ⟨rfl, hw⟩
  | case3 place p ps causes w url hurl body w₁ hask =>
    obtain ⟨url', hurl', hu⟩ := exists_of_rel (h.config.requestUrl? call.op p call.queue) hurl
    obtain ⟨w₁', hask', hw₁⟩ := (h.ask place p redirectLimit hu (hw.note _)).exists_eq hask
    simp only [Call.walk, h.op, h.queue, hurl', ← hu.shown_eq, hask']
    exact ⟨rfl, hw₁⟩
  | case4 place p ps causes w url hurl cause w₁ hask ih =>
    obtain ⟨url', hurl', hu⟩ := exists_of_rel (h.config.requestUrl? call.op p call.queue) hurl
    obtain ⟨w₁', hask', hw₁⟩ := (h.ask place p redirectLimit hu (hw.note _)).exists_eq hask
    rw [Call.walk.eq_def call']
    simp only [h.op, h.queue, hurl', ← hu.shown_eq, hask']
    exact ih hw₁
  | case5 place p ps causes w url hurl cause w₁ hask =>
    obtain ⟨url', hurl', hu⟩ := exists_of_rel (h.config.requestUrl? call.op p call.queue) hurl
    obtain ⟨w₁', hask', hw₁⟩ := (h.ask place p redirectLimit hu (hw.note _)).exists_eq hask
    simp only [Call.walk, h.op, h.queue, hurl', ← hu.shown_eq, hask']
    exact ⟨rfl, hw₁⟩

/-- Twins of a call come to the same. -/
theorem Twins.dispatch (h : call.Twins call') (d : Directory) (hw : w.Twins w') :
    Agree (call.dispatch d w) (call'.dispatch d w') := by
  rw [Call.dispatch, Call.dispatch, h.op]
  exact h.walk 0 d.peers [] (hw.note _)

end Call

/-! ### Discovery -/

theorem Wire.Twins.noteFollowers {w w' : Wire} (hw : w.Twins w') (place : Nat) (ps : List Peer) :
    (Discovery.noteFollowers place ps w).Twins (Discovery.noteFollowers place ps w') := by
  induction ps generalizing place w w' with
  | nil => exact hw
  | cons p ps ih => exact ih (hw.note _) (place + 1)

namespace Config

open Wire (Agree)

variable {c c' : Config} {w w' : Wire}

theorem Twins.askNodes (hc : c.Twins c') (d : Directory) (hw : w.Twins w') :
    Agree (Discovery.askNodes c d w) (Discovery.askNodes c' d w') := by
  have hcall : Call.Twins { config := c, op := .nodes } { config := c', op := .nodes } :=
    ⟨hc, rfl, rfl, rfl⟩
  cases hx : ({ config := c, op := .nodes } : Call).dispatch d w with
  | mk result w₁ =>
    obtain ⟨w₁', hx', hw₁⟩ := (hcall.dispatch d hw).exists_eq hx
    rw [Discovery.askNodes, Discovery.askNodes, hx, hx']
    match result with
    | .error (.exhausted failures) => exact ⟨rfl, hw₁⟩
    | .error (.interrupted cause) => exact ⟨rfl, hw₁⟩
    | .ok body =>
      dsimp only
      cases Topology.ofNodes? (Topology.document body) with
      | none => exact ⟨rfl, hw₁⟩
      | some found => exact ⟨rfl, (hw₁.note _).noteFollowers 0 _⟩

/-- Discovery under twins of a configuration finds the same. -/
theorem Twins.discover (hc : c.Twins c') (d : Directory) (hw : w.Twins w') :
    Agree (Discovery.discover c d w) (Discovery.discover c' d w') := by
  have hcall : Call.Twins { config := c, op := .status } { config := c', op := .status } :=
    ⟨hc, rfl, rfl, rfl⟩
  cases hx : ({ config := c, op := .status } : Call).dispatch d w with
  | mk result w₁ =>
    obtain ⟨w₁', hx', hw₁⟩ := (hcall.dispatch d hw).exists_eq hx
    rw [Discovery.discover, Discovery.discover, hx, hx']
    match result with
    | .error (.exhausted failures) => exact hc.askNodes d (hw₁.note _)
    | .error (.interrupted cause) => exact ⟨rfl, hw₁⟩
    | .ok body =>
      dsimp only
      cases Topology.ofStatus? (Topology.document body) with
      | none => exact hc.askNodes d (hw₁.note _)
      | some found => exact ⟨rfl, hw₁.note _⟩

end Config

end SqlCluster
