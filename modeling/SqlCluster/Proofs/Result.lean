import Mathlib.Data.List.Forall2

/-!
Results that may be errors or missing. A chain of computations has a value exactly if each of them
has one, and so has a list that is read item by item; the error of a list is that of its first item
at fault.
-/

namespace SqlCluster

variable {ε ε' α β γ : Type} {x : Except ε α} {a : α} {b : β}

theorem bind_eq_ok {f : α → Except ε β} : x >>= f = .ok b ↔ ∃ a, x = .ok a ∧ f a = .ok b := by
  cases x <;> simp [bind, Except.bind]

theorem bind_eq_error {f : α → Except ε β} {e : ε} :
    x >>= f = .error e ↔ x = .error e ∨ ∃ a, x = .ok a ∧ f a = .error e := by
  cases x <;> simp [bind, Except.bind]

theorem pure_ne_error {e : ε} : (pure a : Except ε α) ≠ .error e := nofun

theorem map_eq_ok {f : α → β} : x.map f = .ok b ↔ ∃ a, x = .ok a ∧ f a = b := by
  cases x <;> simp [Except.map]

theorem map_eq_error {f : α → β} {e : ε} : x.map f = .error e ↔ x = .error e := by
  cases x <;> simp [Except.map]

theorem mapError_eq_ok {f : ε → ε'} : x.mapError f = .ok a ↔ x = .ok a := by
  cases x with
  | error cause => exact ⟨nofun, nofun⟩
  | ok a' =>
    constructor <;> intro h <;> cases h <;> rfl

theorem exists_of_map_toOption {f : α → β} (h : x.toOption.map f = some b) :
    ∃ a, x = .ok a ∧ f a = b := by
  cases x with
  | error e => cases h
  | ok a => exact ⟨a, rfl, Option.some.inj h⟩

/-! ### Lists that are read item by item -/

variable {g : α → Option β} {as : List α} {bs : List β}

theorem exists_mem_of_mapM (h : as.mapM g = some bs) (ha : a ∈ as) : ∃ b ∈ bs, g a = some b := by
  induction as generalizing bs with
  | nil => cases ha
  | cons a' as ih =>
    simp only [List.mapM_cons, Option.bind_eq_bind, Option.bind_eq_some_iff, Option.pure_def,
      Option.some.injEq] at h
    obtain ⟨b, hb, bs, hbs, rfl⟩ := h
    rcases List.mem_cons.1 ha with rfl | ha
    · exact ⟨b, List.mem_cons_self, hb⟩
    · obtain ⟨b', hmem, hb'⟩ := ih hbs ha
      exact ⟨b', List.mem_cons_of_mem b hmem, hb'⟩

theorem exists_of_mem_mapM (h : as.mapM g = some bs) (ha : a ∈ as) : ∃ b, g a = some b := by
  obtain ⟨b, -, hb⟩ := exists_mem_of_mapM h ha
  exact ⟨b, hb⟩

/-- What is read from a list is read from one of its items each. -/
theorem mem_of_mapM (h : as.mapM g = some bs) (hb : b ∈ bs) : ∃ a ∈ as, g a = some b := by
  induction as generalizing bs with
  | nil =>
    cases h
    cases hb
  | cons a as ih =>
    simp only [List.mapM_cons, Option.bind_eq_bind, Option.bind_eq_some_iff, Option.pure_def,
      Option.some.injEq] at h
    obtain ⟨b', hb', bs, hbs, rfl⟩ := h
    rcases List.mem_cons.1 hb with rfl | hb
    · exact ⟨a, List.mem_cons_self, hb'⟩
    · obtain ⟨a', hmem, ha'⟩ := ih hbs hb
      exact ⟨a', List.mem_cons_of_mem a hmem, ha'⟩

/-- Items that a function takes back to what they were read from. -/
theorem map_of_mapM {f : β → α} (h : as.mapM g = some bs)
    (hread : ∀ a ∈ as, ∀ b, g a = some b → f b = a) : bs.map f = as := by
  induction as generalizing bs with
  | nil =>
    cases h
    rfl
  | cons a as ih =>
    simp only [List.forall_mem_cons] at hread
    simp only [List.mapM_cons, Option.bind_eq_bind, Option.bind_eq_some_iff, Option.pure_def,
      Option.some.injEq] at h
    obtain ⟨b, hb, bs, hbs, rfl⟩ := h
    rw [List.map_cons, hread.1 b hb, ih hbs hread.2]

/-- Items that are read back from what a function makes of them. -/
theorem mapM_map_eq_some {f : β → α} (h : ∀ b ∈ bs, g (f b) = some b) :
    (bs.map f).mapM g = some bs := by
  induction bs with
  | nil => rfl
  | cons b bs ih =>
    simp only [List.forall_mem_cons] at h
    rw [List.map_cons, List.mapM_cons, h.1, ih h.2]
    rfl

theorem mapM_eq_some_iff {f : β → α} (hg : ∀ a b, g a = some b ↔ a = f b) :
    as.mapM g = some bs ↔ as = bs.map f := by
  constructor
  · intro h
    exact (map_of_mapM h fun a _ b hb => ((hg a b).1 hb).symm).symm
  · rintro rfl
    exact mapM_map_eq_some fun b _ => (hg (f b) b).2 rfl

/-- What every step of a reader preserves holds when it has come to the end. -/
theorem foldlM_invariant {f : β → α → Option β} {p : β → Prop} {b b' : β}
    (hstep : ∀ b a b', p b → f b a = some b' → p b') (hb : p b) (h : as.foldlM f b = some b') :
    p b' := by
  induction as generalizing b with
  | nil =>
    cases h
    exact hb
  | cons a as ih =>
    rw [List.foldlM_cons] at h
    obtain ⟨b₁, hfirst, hrest⟩ := Option.bind_eq_some_iff.1 h
    exact ih (hstep b a b₁ hb hfirst) hrest

variable {f : α → Except ε β}

theorem mapM_eq_ok : as.mapM f = .ok bs ↔ List.Forall₂ (fun a b => f a = .ok b) as bs := by
  induction as generalizing bs with
  | nil => cases bs <;> simp [pure, Except.pure]
  | cons a as ih =>
    rw [List.mapM_cons]
    simp only [bind_eq_ok, ih, pure, Except.pure, Except.ok.injEq]
    constructor
    · rintro ⟨b, hb, bs, hbs, rfl⟩
      exact .cons hb hbs
    · rintro (_ | ⟨hb, hbs⟩)
      exact ⟨_, hb, _, hbs, rfl⟩

theorem exists_of_mapM_eq_ok (h : as.mapM f = .ok bs) (ha : a ∈ as) : ∃ b, f a = .ok b := by
  have hall := mapM_eq_ok.1 h
  clear h
  induction hall with
  | nil => cases ha
  | cons hb _ ih =>
    obtain rfl | ha := List.mem_cons.1 ha
    · exact ⟨_, hb⟩
    · exact ih ha

/-- The induction is on the items: what is read before the first fault leaves no trace. -/
theorem mapM_eq_error {e : ε} : as.mapM f = .error e ↔ ∃ before a behind,
    as = before ++ a :: behind ∧ (∀ a' ∈ before, ∃ b, f a' = .ok b) ∧ f a = .error e := by
  induction as with
  | nil => simp [pure, Except.pure]
  | cons a as ih =>
    simp only [List.mapM_cons, bind_eq_error, ih, pure_ne_error, and_false, exists_false, or_false]
    constructor
    · rintro (h | ⟨b, hb, before, a', behind, rfl, hbefore, h⟩)
      · exact ⟨[], a, as, rfl, nofun, h⟩
      · exact ⟨a :: before, a', behind, rfl, List.forall_mem_cons.2 ⟨⟨b, hb⟩, hbefore⟩, h⟩
    · rintro ⟨before, a', behind, has, hbefore, h⟩
      cases before with
      | nil =>
        cases has
        exact .inl h
      | cons first before =>
        cases has
        obtain ⟨⟨b, hb⟩, hbefore⟩ := List.forall_mem_cons.1 hbefore
        exact .inr ⟨b, hb, before, a', behind, rfl, hbefore, h⟩

/-- Items that are counted from a number on: the error is that of the first one at fault, with the
number that it has. -/
theorem mapM_zipIdx_eq_error {f : α × Nat → Except ε β} {p : α → Prop} {k : Nat} {e : ε}
    (h : ∀ a i, (∃ b, f (a, i) = .ok b) ↔ p a) :
    (as.zipIdx k).mapM f = .error e ↔ ∃ before a behind, as = before ++ a :: behind ∧
      (∀ a' ∈ before, p a') ∧ f (a, k + before.length) = .error e := by
  have hall (before : List α) : (∀ q ∈ before.zipIdx k, ∃ b, f q = .ok b) ↔ ∀ a ∈ before, p a := by
    have hfst : (∀ a ∈ (before.zipIdx k).map Prod.fst, p a) ↔ ∀ q ∈ before.zipIdx k, p q.1 :=
      List.forall_mem_map
    rw [List.zipIdx_map_fst] at hfst
    simp only [hfst, h]
  rw [mapM_eq_error]
  constructor
  · rintro ⟨_, q, _, has, hbefore, hq⟩
    obtain ⟨before, rest, rfl, rfl, hrest⟩ := List.zipIdx_eq_append_iff.1 has
    obtain ⟨a, behind, rfl, rfl, -⟩ := List.zipIdx_eq_cons_iff.1 hrest.symm
    exact ⟨before, a, behind, rfl, (hall before).1 hbefore, hq⟩
  · rintro ⟨before, a, behind, rfl, hbefore, ha⟩
    refine ⟨_, _, behind.zipIdx (k + before.length + 1), ?_, (hall before).2 hbefore, ha⟩
    rw [List.zipIdx_append, List.zipIdx_cons]

/-- Errors of a list are all of some sort unless it comes to an item that has another error. -/
theorem mapM_errors_iff {p : ε → Prop} {q : α → Prop}
    (h : ∀ a ∈ as, (∀ e, f a = .error e → p e) ↔ ¬q a) :
    (∀ e, as.mapM f = .error e → p e) ↔ ¬∃ before a behind, as = before ++ a :: behind ∧
      (∀ a' ∈ before, ∃ b, f a' = .ok b) ∧ q a := by
  constructor
  · rintro hall ⟨before, a, behind, has, hbefore, hq⟩
    refine (h a (by simp [has])).1 (fun e he => hall e ?_) hq
    exact mapM_eq_error.2 ⟨before, a, behind, has, hbefore, he⟩
  · intro hnone e he
    obtain ⟨before, a, behind, has, hbefore, ha⟩ := mapM_eq_error.1 he
    exact (h a (by simp [has])).2 (fun hq => hnone ⟨before, a, behind, has, hbefore, hq⟩) e ha

/-- What is made of each item beside it may as well be made of all of them afterwards. -/
theorem mapM_map (g : α → β → γ) (as : List α) :
    as.mapM (fun a => (f a).map (g a)) = (as.mapM f).map (List.zipWith g as) := by
  induction as with
  | nil => rfl
  | cons a as ih =>
    rw [List.mapM_cons, List.mapM_cons, ih]
    cases f a with
    | error e => rfl
    | ok b => cases as.mapM f <;> rfl

end SqlCluster
