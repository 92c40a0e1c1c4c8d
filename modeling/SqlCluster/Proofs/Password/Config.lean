import SqlCluster.Proofs.Config.Parameter
import SqlCluster.Proofs.Password.Url

/-!
Connection URLs that differ in a password (`DifferInPassword`). The readers of connection URLs find
the same parts in both, the password apart, and a password that is not empty in each. So those that
are accepted lead to configurations that are twins (`Config.twins_of_ofUrl`).
-/

namespace SqlCluster

open Text Url

/-! ### Passwords with escapes undone -/

theorem Url.unquoteLossyAfter_ne_nil {run : List UInt8} {s : List Char} (h : run ≠ [] ∨ s ≠ []) :
    unquoteLossyAfter run s ≠ [] := by
  fun_induction unquoteLossyAfter run s with
  | case1 run => simpa [Utf8.decodeLossy] using Utf8.scan_ne_nil (by simpa using h)
  | case2 run c s hc => simp
  | case3 run hc a b r n hn ih => exact ih (by simp)
  | case4 run hc a b r hn ih => exact ih (by simp)
  | case5 run s hc hs ih => exact ih (by simp)
  | case6 run c s hc hs ih => exact ih (by simp)

theorem Url.unquoteLossy_ne_nil {s : List Char} (h : s ≠ []) : unquoteLossy s ≠ [] :=
  unquoteLossyAfter_ne_nil (.inr h)

/-! ### Connection URLs -/

/-- Whether a character is left out where URLs are read. -/
def isBreak (c : Char) : Bool := c == '\t' || c == '\n' || c == '\r'

/-- A text that can be the password of a connection URL: it ends no authority, and it is not empty
without the breaks in it. -/
structure IsPassword (p : List Char) : Prop where
  inside : ∀ c ∈ p, endsAuthority c = false
  given : ∃ c ∈ p, isBreak c = false

/-- Every password that is not empty can be one if it is quoted. -/
theorem isPassword_quote {s : List Char} (h : s ≠ []) : IsPassword (userQuoting.quote s) := by
  have hends : ∀ c, endsAuthority c → c = '/' ∨ c = '?' ∨ c = '#' := by
    simp [endsAuthority, or_assoc]
  have hbreak : ∀ c, isBreak c → c = '\t' ∨ c = '\n' ∨ c = '\r' := by
    simp [isBreak, or_assoc]
  constructor
  · intro c hc
    rw [← Bool.not_eq_true]
    intro hc'
    obtain rfl | rfl | rfl := hends c hc' <;>
      exact absurd (allows_of_mem_quote hc) (by decide)
  · obtain ⟨c, hc⟩ := List.exists_mem_of_ne_nil _ (quote_ne_nil h)
    refine ⟨c, hc, ?_⟩
    rw [← Bool.not_eq_true]
    intro hc'
    obtain rfl | rfl | rfl := hbreak c hc' <;>
      exact absurd (allows_of_mem_quote hc) (by decide)

/-- Connection URLs that are the same but for their passwords: in front of those stand a scheme, two
slashes, a user and a colon, and behind them an `@`. -/
inductive DifferInPassword : List Char → List Char → Prop
  | mk {front scheme user p p' behind : List Char}
      (hfront : stripped front = scheme ++ ':' :: '/' :: '/' :: user) (hscheme : ':' ∉ scheme)
      (huser : ∀ c ∈ user, c ≠ ':' ∧ endsAuthority c = false) (hp : IsPassword p)
      (hp' : IsPassword p') :
      DifferInPassword (front ++ ':' :: p ++ '@' :: behind) (front ++ ':' :: p' ++ '@' :: behind)

/-! ### Reading them -/

theorem Url.stripped_append {s : List Char} (h : stripped s ≠ []) (t : List Char) :
    stripped (s ++ t) = stripped s ++ t.filter fun c => !isBreak c := by
  have hkeep : (fun c : Char => decide (c ≠ '\t' ∧ c ≠ '\n' ∧ c ≠ '\r')) = fun c => !isBreak c := by
    funext c
    rw [Bool.eq_iff_iff]
    simp [isBreak, and_assoc]
  rw [stripped, hkeep] at h ⊢
  have hdrop : (s.dropWhile fun c => c.toNat ≤ 0x20) ≠ [] := by
    intro hnil
    simp [hnil] at h
  rw [stripped, hkeep, List.dropWhile_append, if_neg (by simpa using hdrop), List.filter_append]

theorem Url.cutAuthority_append {a b : List Char} {c : Char}
    (h : ∀ d ∈ a, endsAuthority d = false) (hc : endsAuthority c = false) :
    cutAuthority ('/' :: '/' :: (a ++ c :: b)) =
      (a ++ c :: b.takeWhile fun c => !endsAuthority c, b.dropWhile fun c => !endsAuthority c) := by
  have h' : ∀ d ∈ a, (!endsAuthority d) = true := fun d hd => by rw [h d hd]; rfl
  rw [cutAuthority, List.takeWhile_append_of_pos h', List.dropWhile_append_of_pos h']
  simp [hc]

theorem Url.cutScheme_eq {scheme rest : List Char} (hscheme : ':' ∉ scheme)
    (h : (cutScheme (scheme ++ ':' :: rest)).1 ≠ []) :
    cutScheme (scheme ++ ':' :: rest) = (scheme.map Char.toLower, rest) := by
  simp only [cutScheme, cutFirst?_append hscheme] at h ⊢
  split at h
  next hvalid => rw [if_pos hvalid]
  · exact absurd rfl h

namespace Location

/-- The location that a scheme, an authority and what is behind it stand for, if they are sound. -/
def reading (scheme authority rest : List Char) : Location where
  scheme := scheme
  user := (credentials authority).1
  password := (credentials authority).2
  host := lowerHost (Authority.cutPort (Authority.place authority)).1
  port := (readPort (Authority.cutPort (Authority.place authority)).2).toOption.getD 0
  parameters := readParameters (cutAt '?' (cutAt '#' rest).1).2

theorem eq_reading_of_ofText {s : List Char} {l : Location} (h : ofText s = .ok l) :
    l = reading (cutScheme (stripped s)).1 (cutAuthority (cutScheme (stripped s)).2).1
      (cutAuthority (cutScheme (stripped s)).2).2 := by
  simp only [ofText] at h
  split at h
  · cases h
  · rw [reading]
    generalize readPort _ = port at h ⊢
    cases port <;> cases h
    rfl

/-- Of an authority with a user and a password in front of an `@` only the password of the location
tells which password it was. -/
theorem exists_reading {user : List Char} (huser : ':' ∉ user) (scheme behind rest : List Char) :
    ∃ (l : Location) (x : List Char), ∀ p, reading scheme (user ++ ':' :: p ++ '@' :: behind) rest =
      { l with password := unquoteLossy (p ++ x) } := by
  obtain ⟨x, place, hcut⟩ := exists_cutLast?_append '@' behind
  refine ⟨reading scheme (user ++ ':' :: [] ++ '@' :: behind) rest, x, fun p => ?_⟩
  have hcolon (p : List Char) : cutAt ':' (user ++ ':' :: p ++ x) = (user, p ++ x) := by
    rw [List.append_assoc, List.cons_append, cutAt, cutFirst?_append huser]
    rfl
  simp only [reading, credentials, Authority.place, hcut, hcolon, Option.map_some,
    Option.getD_some]

/-- What is read of a connection URL with a user and a password. -/
theorem eq_reading_of_password {front scheme user p behind : List Char} {l : Location}
    (hfront : stripped front = scheme ++ ':' :: '/' :: '/' :: user) (hscheme : ':' ∉ scheme)
    (huser : ∀ c ∈ user, endsAuthority c = false) (hp : ∀ c ∈ p, endsAuthority c = false)
    (hl : ofText (front ++ ':' :: p ++ '@' :: behind) = .ok l) (hne : l.scheme ≠ []) :
    l = reading (scheme.map Char.toLower) (user ++ ':' :: (p.filter fun c => !isBreak c) ++
      '@' :: (behind.filter fun c => !isBreak c).takeWhile fun c => !endsAuthority c)
      ((behind.filter fun c => !isBreak c).dropWhile fun c => !endsAuthority c) := by
  have hmarks : isBreak ':' = false ∧ isBreak '@' = false := by decide
  have hstripped : stripped (front ++ ':' :: p ++ '@' :: behind) =
      scheme ++ ':' :: '/' :: '/' :: (user ++ ':' :: (p.filter fun c => !isBreak c) ++
        '@' :: behind.filter fun c => !isBreak c) := by
    rw [List.append_assoc, List.cons_append, stripped_append (by simp [hfront]), hfront]
    simp [hmarks]
  have hinside : ∀ c ∈ user ++ ':' :: p.filter fun c => !isBreak c, endsAuthority c = false := by
    simp only [List.mem_append, List.mem_cons, List.mem_filter]
    rintro c (hc | rfl | ⟨hc, -⟩)
    · exact huser c hc
    · decide
    · exact hp c hc
  have hread := eq_reading_of_ofText hl
  rw [hstripped] at hread
  have hcut := cutScheme_eq hscheme (by rw [hread] at hne; exact hne)
  rwa [hcut, cutAuthority_append hinside (by decide)] at hread

end Location

/-- The locations of connection URLs that differ in their passwords do the same, and neither
password is empty. -/
theorem DifferInPassword.eq_location {s s' : List Char} {l l' : Location}
    (h : DifferInPassword s s') (hl : Location.ofText s = .ok l) (hl' : Location.ofText s' = .ok l')
    (hne : l.scheme ≠ []) (hne' : l'.scheme ≠ []) :
    l.password ≠ [] ∧ l'.password ≠ [] ∧ l' = { l with password := l'.password } := by
  cases h with
  | @mk front scheme user p p' behind hfront hscheme huser hp hp' =>
    have hgiven {p x : List Char} (hp : IsPassword p) :
        unquoteLossy ((p.filter fun c => !isBreak c) ++ x) ≠ [] := by
      obtain ⟨c, hc, hkeep⟩ := hp.given
      exact unquoteLossy_ne_nil (List.ne_nil_of_mem
        (List.mem_append_left _ (List.mem_filter.2 ⟨hc, by simp [hkeep]⟩)))
    have hread := Location.eq_reading_of_password hfront hscheme (fun c hc => (huser c hc).2)
      hp.inside hl hne
    have hread' := Location.eq_reading_of_password hfront hscheme (fun c hc => (huser c hc).2)
      hp'.inside hl' hne'
    have hcolon : ':' ∉ user := fun h => (huser _ h).1 rfl
    obtain ⟨m, x, hm⟩ := Location.exists_reading hcolon (scheme.map Char.toLower)
      ((behind.filter fun c => !isBreak c).takeWhile fun c => !endsAuthority c)
      ((behind.filter fun c => !isBreak c).dropWhile fun c => !endsAuthority c)
    rw [hm] at hread hread'
    subst hread hread'
    exact ⟨hgiven hp, hgiven hp', rfl⟩

/-! ### Configurations -/

namespace Config

/-- What settings come to for twins: twins again, or the same error. -/
inductive SetTwins : Except ConfigError Config → Except ConfigError Config → Prop
  | ok {c c' : Config} (h : c.Twins c') : SetTwins (.ok c) (.ok c')
  | error (cause : ConfigError) : SetTwins (.error cause) (.error cause)

variable {c c' : Config}

theorem SetTwins.bind {x x' : Except ConfigError Config} {f f' : Config → Except ConfigError Config}
    (h : SetTwins x x') (hf : ∀ c c', Twins c c' → SetTwins (f c) (f' c')) :
    SetTwins (x >>= f) (x' >>= f') := by
  cases h with
  | ok h => exact hf _ _ h
  | error cause => exact .error cause

theorem Twins.setLevel (h : c.Twins c') (v : Value) : SetTwins (c.setLevel v) (c'.setLevel v) := by
  obtain ⟨hp, hp'⟩ := h
  rw [Config.setLevel, Config.setLevel]
  cases Level.ofValue v with
  | ok l => exact .ok (.mk hp hp')
  | error cause => exact .error _

theorem Twins.setTimeout (h : c.Twins c') (value : List Char) :
    SetTwins (c.setTimeout value) (c'.setTimeout value) := by
  obtain ⟨hp, hp'⟩ := h
  rw [Config.setTimeout, Config.setTimeout]
  cases Numeral.readDouble? value with
  | none => exact .error _
  | some x =>
    dsimp only
    split
    · exact .error _
    · exact .ok (.mk hp hp')

theorem Twins.setParameter (h : c.Twins c') (name value : List Char) :
    SetTwins (c.setParameter name value) (c'.setParameter name value) := by
  rw [Config.setParameter, Config.setParameter]
  split
  · exact h.setLevel _
  split
  · exact h.setTimeout value
  split
  · obtain ⟨hp, hp'⟩ := h
    cases flag? value with
    | none => exact .error _
    | some b => exact .ok (.mk hp hp')
  · exact .error _

theorem Twins.setParameters (h : c.Twins c') (ps : List (List Char × List Char)) :
    SetTwins (c.setParameters ps) (c'.setParameters ps) := by
  induction ps generalizing c c' with
  | nil => exact .ok h
  | cons p ps ih => exact (h.setParameter p.1 p.2).bind fun _ _ h => ih h

/-- Connection URLs that differ in their passwords, if they are accepted, lead to twins. -/
theorem twins_of_ofUrl {url url' : String} (h : DifferInPassword url.toList url'.toList)
    (hc : ofUrl url = .ok c) (hc' : ofUrl url' = .ok c') : c.Twins c' := by
  obtain ⟨l, hl, hweb, hset⟩ := exists_location_of_ofUrl hc
  obtain ⟨l', hl', hweb', hset'⟩ := exists_location_of_ofUrl hc'
  have hgiven {s : List Char} (hs : s = "http".toList ∨ s = "https".toList) : s ≠ [] := by
    rcases hs with rfl | rfl <;> decide
  obtain ⟨hp, hp', heq⟩ := h.eq_location hl hl' (hgiven hweb) (hgiven hweb')
  have hnonempty {s : List Char} (hs : s ≠ []) : nonempty? s = some (String.ofList s) := by
    simp [nonempty?, hs]
  have htwins : (ofLocation url l).Twins (ofLocation url' l') := by
    rw [heq, ofLocation, ofLocation, hnonempty hp, hnonempty hp']
    exact .mk (by simpa using hp) (by simpa using hp')
  have hset' : (ofLocation url' l').setParameters l.parameters = .ok c' := by
    rwa [heq] at hset' ⊢
  have := htwins.setParameters l.parameters
  rw [hset, hset'] at this
  cases this with
  | ok h => exact h

end Config

end SqlCluster
