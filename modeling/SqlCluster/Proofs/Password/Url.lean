import SqlCluster.Proofs.Url.Percent
import SqlCluster.Request

/-!
URLs that differ in a password. Twins are URLs that are the same but for their passwords, where both
have one (`Url.Twins`). Whatever is read off a URL, its password apart, is the same for twins, and
whatever is made of twins are twins again: a URL that a redirect leads to, a URL with other
credentials. This holds since a password ends at the last `@` of a written authority and begins at
its first colon, which no quoted user holds.
-/

namespace SqlCluster

theorem rel_bind {α β γ δ : Type} {r : α → β → Prop} {s : γ → δ → Prop} {x : Option α}
    {y : Option β} {f : α → Option γ} {g : β → Option δ} (h : Option.Rel r x y)
    (hfg : ∀ a b, x = some a → r a b → Option.Rel s (f a) (g b)) :
    Option.Rel s (x.bind f) (y.bind g) := by
  cases h with
  | some h => exact hfg _ _ rfl h
  | none => exact .none

namespace Url

open Text

/-! ### Authorities -/

/-- Authorities that are the same but for their passwords, where both have one. -/
inductive Authority.Twins : Authority → Authority → Prop
  | refl (a : Authority) : Twins a a
  | passwords {user : Option (List Char)} {host p p' : List Char} {port : Option Nat} (hp : p ≠ [])
      (hp' : p' ≠ []) (huser : ':' ∉ user.getD []) :
      Twins ⟨user, some p, host, port⟩ ⟨user, some p', host, port⟩

namespace Authority

variable {a a' : Authority}

theorem Twins.user_eq (h : a.Twins a') : a.user = a'.user := by cases h <;> rfl

theorem Twins.bareHost_eq (h : a.Twins a') : a.bareHost = a'.bareHost := by cases h <;> rfl

theorem isPresent_of_password {p : List Char} (h : a.password = some p) : a.isPresent = true := by
  cases a
  cases h
  simp [isPresent, text, credentials]

theorem Twins.isPresent_eq (h : a.Twins a') : a.isPresent = a'.isPresent := by
  cases h with
  | refl => rfl
  | passwords => rw [isPresent_of_password rfl, isPresent_of_password rfl]

theorem colon_notMem_nonempty? {user : List Char} (h : ':' ∉ user) :
    ':' ∉ (nonempty? user).getD [] := by
  rw [nonempty?]
  split
  · simp
  · exact h

/-- Of a user and a password in front of an `@` only the password tells which of them it was: it is
what stands between the first colon and the last `@`. -/
theorem exists_ofText? {user behind : List Char} (huser : ':' ∉ user) :
    ∃ (x host : List Char) (port : Option (Option Nat)), ∀ p,
      ofText? (user ++ ':' :: p ++ '@' :: behind) =
        port.map fun port => ⟨nonempty? user, some (p ++ x), host, port⟩ := by
  obtain ⟨x, rest, hcut⟩ := exists_cutLast?_append '@' behind
  refine ⟨x, (cutPort rest).1, port? (cutPort rest).2, fun p => ?_⟩
  rw [ofText?, hcut]
  simp only [List.append_assoc, List.cons_append, cutFirst?_append huser]
  cases port? (cutPort rest).2 <;> rfl

theorem Twins.reread? (h : a.Twins a') : Option.Rel Twins a.reread? a'.reread? := by
  cases h with
  | refl =>
    cases a.reread? with
    | none => exact .none
    | some b => exact .some (.refl b)
  | @passwords user host p p' port hp hp' huser =>
    have htext (p : List Char) : text ⟨user, some p, host, port⟩ =
        user.getD [] ++ ':' :: p ++ '@' :: (host ++ portText ⟨none, none, [], port⟩) := by
      simp [text, credentials, portText]
    obtain ⟨x, host, port, hread⟩ := exists_ofText? huser
    rw [Authority.reread?, Authority.reread?, htext, htext, hread, hread]
    cases port with
    | none => exact .none
    | some port =>
      exact .some (.passwords (by simp [hp]) (by simp [hp']) (colon_notMem_nonempty? huser))

end Authority

/-! ### URLs -/

/-- URLs that are the same but for their passwords, where both have one. -/
inductive Twins : Url → Url → Prop
  | mk {scheme path query fragment : List Char} {a a' : Authority} (h : a.Twins a') :
      Twins ⟨scheme, a, path, query, fragment⟩ ⟨scheme, a', path, query, fragment⟩

/-- A URL with an empty password in place of the one that it has. -/
def blinded (u : Url) : Url :=
  { u with authority := { u.authority with password := u.authority.password.map fun _ => [] } }

variable {u u' : Url}

theorem Twins.refl (u : Url) : u.Twins u := ⟨.refl u.authority⟩

theorem Twins.blinded_eq (h : u.Twins u') : u.blinded = u'.blinded := by
  obtain ⟨h⟩ := h
  cases h <;> rfl

theorem Twins.authority (h : u.Twins u') : u.authority.Twins u'.authority := by
  obtain ⟨h⟩ := h
  exact h

theorem Twins.hasUser_eq (h : u.Twins u') : u.hasUser = u'.hasUser := by
  rw [hasUser, hasUser, h.authority.user_eq]

theorem Twins.host?_eq (h : u.Twins u') : u.host? = u'.host? := by
  rw [host?, host?, h.authority.bareHost_eq]

theorem Twins.port?_eq (h : u.Twins u') : u.port? = u'.port? := by
  obtain ⟨h⟩ := h
  cases h <;> rfl

theorem Twins.pathText_eq (h : u.Twins u') : u.pathText = u'.pathText := by
  rw [pathText, pathText, h.authority.isPresent_eq]
  obtain ⟨h⟩ := h
  rfl

/-- Twins are shown as the same text. -/
theorem Twins.shown_eq (h : u.Twins u') : u.shown = u'.shown := by
  obtain ⟨h⟩ := h
  cases h with
  | refl => rfl
  | passwords hp hp' huser =>
    obtain ⟨c, p, rfl⟩ := List.exists_cons_of_ne_nil hp
    obtain ⟨c', p', rfl⟩ := List.exists_cons_of_ne_nil hp'
    simp only [shown, redacted, withPassword?]
    rw [if_pos (Authority.isPresent_of_password rfl), if_pos (Authority.isPresent_of_password rfl)]
    rfl

/-- A reference leads to twins from twins. -/
theorem Twins.join? (h : u.Twins u') (reference : Url) :
    Option.Rel Twins (u.join? reference) (u'.join? reference) := by
  cases h with
  | @mk base _ _ _ _ _ h =>
    simp only [Url.join?]
    generalize (if reference.scheme.isEmpty = true then base else reference.scheme) = scheme
    split
    · exact .some (Twins.refl reference)
    split
    · cases reference.authority.reread? with
      | none => exact .none
      | some a => exact .some (Twins.refl _)
    · refine rel_bind h.reread? fun b b' _ hb => ?_
      split
      · exact .some ⟨hb⟩
      · exact .some ⟨hb⟩

theorem Twins.withUser? (h : u.Twins u') (user : List Char) :
    Option.Rel Twins (u.withUser? user) (u'.withUser? user) := by
  obtain ⟨h⟩ := h
  simp only [Url.withUser?, ← h.isPresent_eq]
  split
  · cases h with
    | refl => exact .some (.refl _)
    | passwords hp hp' =>
      exact .some ⟨.passwords hp hp' (colon_notMem_quote user)⟩
  · exact .none

theorem colon_notMem_of_withUser? {user : List Char} {v : Url} (h : u.withUser? user = some v) :
    ':' ∉ v.authority.user.getD [] := by
  rw [Url.withUser?] at h
  split at h <;> cases h
  exact colon_notMem_quote user

theorem Twins.withPassword? {p p' : List Char} (h : u.Twins u') (hp : p ≠ []) (hp' : p' ≠ [])
    (huser : ':' ∉ u.authority.user.getD []) :
    Option.Rel Twins (u.withPassword? p) (u'.withPassword? p') := by
  obtain ⟨h⟩ := h
  simp only [Url.withPassword?, ← h.isPresent_eq]
  split
  · cases h with
    | refl => exact .some ⟨.passwords (quote_ne_nil hp) (quote_ne_nil hp') huser⟩
    | passwords => exact .some ⟨.passwords (quote_ne_nil hp) (quote_ne_nil hp') huser⟩
  · exact .none

theorem twins_build? (scheme host path query : List Char) (user : Option (List Char)) (port : Int)
    {p p' : List Char} (hp : p ≠ []) (hp' : p' ≠ []) :
    Option.Rel Twins (build? scheme user (some p) host port path query)
      (build? scheme user (some p') host port path query) := by
  simp only [build?]
  split
  · split
    · exact .some (.refl _)
    · exact .none
  · cases Host.encode? true host with
    | none => exact .none
    | some host =>
      have huser : ':' ∉ (user.map userQuoting.quote).getD [] := by
        cases user with
        | none => simp
        | some user => exact colon_notMem_quote user
      simp only [Option.bind_eq_bind, Option.bind_some]
      split
      · exact .none
      · exact .some ⟨.passwords (quote_ne_nil hp) (quote_ne_nil hp') huser⟩

end Url

/-! ### Requests of a configuration -/

/-- A request with an empty password in place of the one in its URL. -/
def Request.blinded : Request → Request
  | read u => read u.blinded
  | post u body => post u.blinded body

theorem Request.blinded_of_twins {u u' : Url} (h : u.Twins u') (op : Operation)
    (body : Option String) : (of op body u).blinded = (of op body u').blinded := by
  cases op <;> simp [of, Operation.takesStatements, blinded, h.blinded_eq]

namespace Config

/-- Configurations that are the same but for their passwords, which both have, and the connection
URLs that they came from. -/
inductive Twins : Config → Config → Prop
  | mk {url url' scheme host port p p' : String} {username : Option String} {level : Level}
      {timeout maxConnections : Amount} {disableDiscovery transactions : Bool} (hp : p ≠ "")
      (hp' : p' ≠ "") :
      Twins
        ⟨url, scheme, host, port, username, some p, level, timeout, disableDiscovery, transactions,
          maxConnections⟩
        ⟨url', scheme, host, port, username, some p', level, timeout, disableDiscovery,
          transactions, maxConnections⟩

variable {c c' : Config}

theorem Twins.requestUrl? (h : c.Twins c') (op : Operation) (p : Peer) (queue : Bool) :
    Option.Rel Url.Twins (c.requestUrl? op p queue) (c'.requestUrl? op p queue) := by
  obtain ⟨hp, hp'⟩ := h
  simp only [Config.requestUrl?, given?, if_neg hp, if_neg hp']
  cases Numeral.readInt? p.port.toList with
  | none => exact .none
  | some port =>
    exact Url.twins_build? _ _ _ _ _ _ (by simpa using hp) (by simpa using hp')

theorem Twins.withCredentials? {u u' : Url} (h : c.Twins c') (hu : u.Twins u') :
    Option.Rel Url.Twins (c.withCredentials? u) (c'.withCredentials? u') := by
  obtain ⟨hp, hp'⟩ := h
  simp only [Config.withCredentials?, given?, if_neg hp, if_neg hp']
  split
  · exact .some hu
  next user _ =>
    refine rel_bind (hu.withUser? user) fun v v' hv hvv => ?_
    exact hvv.withPassword? (by simpa using hp) (by simpa using hp')
      (Url.colon_notMem_of_withUser? hv)

/-- A redirect leads to twins from twins. -/
theorem Twins.redirectUrl? {u u' : Url} (h : c.Twins c') (hu : u.Twins u') (location : String) :
    Option.Rel Url.Twins (c.redirectUrl? u location) (c'.redirectUrl? u' location) := by
  simp only [Config.redirectUrl?, Option.bind_eq_bind]
  cases Url.ofText? location.toList with
  | none => exact .none
  | some reference =>
    rw [Option.bind_some, Option.bind_some]
    refine rel_bind (hu.join? reference) fun v v' _ hv => ?_
    rw [← hv.hasUser_eq]
    split
    · exact .some hv
    · exact h.withCredentials? hv

end Config

end SqlCluster
