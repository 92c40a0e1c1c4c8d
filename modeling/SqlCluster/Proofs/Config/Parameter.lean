import SqlCluster.Config
import SqlCluster.Proofs.Result

/-!
Parameters of connection URLs. A parameter sets the level, the timeout or whether the cluster is
discovered (`Config.setParameter_cases`), so all else in a configuration is as its location has it
(`Config.exists_location_of_ofUrl`, `Config.setParameters_eq`). The timeout is the last one among
the parameters (`Config.setParameters_timeout`).
-/

namespace SqlCluster.Config

variable {c c' : Config} {ps : List (List Char × List Char)}

/-! ### Locations -/

theorem nonempty?_ne (s : List Char) : nonempty? s ≠ some "" := by
  rw [nonempty?]
  intro h
  split at h
  · cases h
  next hs =>
    have hnil : s = [] := by simpa using Option.some.inj h
    exact hs (by rw [hnil]; rfl)

/-- Every location leads to a host. -/
theorem host_ofLocation_ne (url : String) (l : Location) : (ofLocation url l).host ≠ "" := by
  show (nonempty? l.host).getD "localhost" ≠ ""
  cases h : nonempty? l.host with
  | none => decide
  | some host =>
    intro hempty
    exact nonempty?_ne l.host (h.trans (congrArg some hempty))

/-! ### Parameters -/

/-- What a parameter can set: a timeout of a number that is not zero and not below, where it is
called so, and else the level or whether the cluster is discovered. -/
theorem setParameter_cases {name value : List Char} (h : c.setParameter name value = .ok c') :
    (name = "timeout".toList ∧ ∃ x, Numeral.readDouble? value = some x ∧ x.isNonpositive = false ∧
      c' = { c with timeout := .real x }) ∨
    (name ≠ "timeout".toList ∧
      ((∃ l, c' = { c with level := l }) ∨ ∃ b, c' = { c with disableDiscovery := b })) := by
  rw [setParameter] at h
  split at h
  next hname =>
    rw [setLevel] at h
    split at h <;> cases h
    exact .inr ⟨hname ▸ by decide, .inl ⟨_, rfl⟩⟩
  split at h
  next hname =>
    rw [setTimeout] at h
    split at h
    next x hx =>
      split at h
      · cases h
      next hpositive =>
        cases h
        exact .inl ⟨hname, x, hx, by simpa using hpositive, rfl⟩
    · cases h
  next hname =>
    split at h
    · split at h <;> cases h
      exact .inr ⟨hname, .inr ⟨_, rfl⟩⟩
    · cases h

theorem setParameters_cons {p : List Char × List Char} : c.setParameters (p :: ps) = .ok c' ↔
    ∃ c₁, c.setParameter p.1 p.2 = .ok c₁ ∧ c₁.setParameters ps = .ok c' := by
  rw [setParameters, bind_eq_ok]

/-- Parameters leave all but three parts of a configuration as they are. -/
theorem setParameters_eq (h : c.setParameters ps = .ok c') : ∃ level timeout disableDiscovery,
    c' = { c with
      level := level
      timeout := timeout
      disableDiscovery := disableDiscovery } := by
  induction ps generalizing c with
  | nil =>
    cases h
    exact ⟨_, _, _, rfl⟩
  | cons p ps ih =>
    obtain ⟨c₁, hfirst, hrest⟩ := setParameters_cons.1 h
    obtain ⟨level, timeout, disableDiscovery, rfl⟩ := ih hrest
    rcases setParameter_cases hfirst with ⟨-, x, -, -, rfl⟩ | ⟨-, ⟨l, rfl⟩ | ⟨b, rfl⟩⟩
    · exact ⟨_, _, _, rfl⟩
    · exact ⟨_, _, _, rfl⟩
    · exact ⟨_, _, _, rfl⟩

/-- The timeouts among parameters, as they are written. -/
def timeouts (ps : List (List Char × List Char)) : List (List Char) :=
  (ps.filter fun p => p.1 = "timeout".toList).map Prod.snd

/-- The last timeout among parameters counts, and without one the timeout stays what it is. -/
theorem setParameters_timeout (h : c.setParameters ps = .ok c') :
    (timeouts ps = [] ∧ c'.timeout = c.timeout) ∨
    ∃ value x, (timeouts ps).getLast? = some value ∧ Numeral.readDouble? value = some x ∧
      x.isNonpositive = false ∧ c'.timeout = .real x := by
  induction ps generalizing c with
  | nil =>
    cases h
    exact .inl ⟨rfl, rfl⟩
  | cons p ps ih =>
    obtain ⟨c₁, hfirst, hrest⟩ := setParameters_cons.1 h
    rcases setParameter_cases hfirst with ⟨hname, x, hx, hpositive, rfl⟩ | ⟨hname, hother⟩
    · have hcons : timeouts (p :: ps) = p.2 :: timeouts ps := by
        rw [timeouts, List.filter_cons, if_pos (decide_eq_true hname)]
        rfl
      rw [hcons, List.getLast?_cons]
      rcases ih hrest with ⟨hnone, htimeout⟩ | ⟨value, y, hlast, hy⟩
      · exact .inr ⟨p.2, x, by rw [hnone]; rfl, hx, hpositive, htimeout⟩
      · exact .inr ⟨value, y, by rw [hlast]; rfl, hy⟩
    · have hcons : timeouts (p :: ps) = timeouts ps := by
        rw [timeouts, List.filter_cons, if_neg (mt of_decide_eq_true hname)]
        rfl
      have htimeout : c₁.timeout = c.timeout := by
        rcases hother with ⟨l, rfl⟩ | ⟨b, rfl⟩
        · rfl
        · rfl
      rw [hcons, ← htimeout]
      exact ih hrest

/-- A connection URL that is accepted is that of a location on the web, whose parameters set what
they stand for. -/
theorem exists_location_of_ofUrl {url : String} (h : ofUrl url = .ok c) :
    ∃ l, Location.ofText url.toList = .ok l ∧
      (l.scheme = "http".toList ∨ l.scheme = "https".toList) ∧
      (ofLocation url l).setParameters l.parameters = .ok c := by
  rw [ofUrl] at h
  split at h
  · cases h
  split at h
  · cases h
  split at h
  · cases h
  next l hl =>
    split at h
    next hscheme => exact ⟨l, hl, hscheme, h⟩
    · cases h

end SqlCluster.Config
