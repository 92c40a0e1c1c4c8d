import SqlCluster.Proofs.Client.Query
import SqlCluster.Proofs.Url.Written

/-!
URLs of requests and back. Whatever texts the credentials of a configuration are, the URL that is
put together for an operation at a peer is read from its text with the same parts
(`Config.ofText?_requestUrl?`): no character of a user name or a password moves where another part
begins. So is the URL that is shown in its place, but for the password.
-/

namespace SqlCluster

open Text

namespace Url

/-! ### What URLs name -/

/-- The parts that a URL names, credentials with their escapes undone. -/
structure Named where
  scheme : List Char
  user : Option (List Char)
  password : Option (List Char)
  host : Option (List Char)
  port : Option Nat
  path : List Char
  query : List Char
  fragment : List Char
  deriving DecidableEq

/-- The parts of a URL as text. -/
def named (u : Url) : Named :=
  { scheme := u.scheme
    user := u.authority.user.map unquote
    password := u.authority.password.map unquote
    host := u.host?
    port := u.port?
    path := u.pathText
    query := u.query
    fragment := u.fragment }

/-- The URL of a place: credentials where they are given, a host and a port, a path and a query. -/
def placed (scheme : List Char) (user password : Option (List Char)) (host : List Char) (n : Nat)
    (path query : List Char) : Url :=
  { scheme := scheme
    authority :=
      { user := user.map userQuoting.quote
        password := password.map userQuoting.quote
        host := Authority.written host
        port := if defaultPort? scheme = some n then none else some n }
    path := path
    query := query
    fragment := [] }

variable {scheme host path query : List Char} {user password : Option (List Char)} {n : Nat}

theorem isNameChar_of_mem_quote {s : List Char} :
    ∀ c ∈ userQuoting.quote s, HostName.isNameChar c ∨ c = '%' := by
  intro c hc
  refine (allows_of_mem_quote hc).imp_left fun hc => isNameChar_iff.2 ?_
  have hsigns : ∀ c ∈ "-._~!$'()*,+&=;".toList, c ∈ "-._~!$&'()*+,;=".toList := by simp
  exact (userQuoting_allows.1 hc).imp_right (hsigns c)

theorem isPlain_placed (hscheme : IsScheme scheme) (huser : user ≠ some [])
    (hhost : Host.IsKept host) (hn : n ≤ 65535) (habsolute : path.head? = some '/')
    (hpath : pathQuoting.Keeps path) (hdotless : '.' ∉ path) (hquery : queryQuoting.Keeps query) :
    (placed scheme user password host n path query).IsPlain host := by
  have hport : ∀ m ∈ (placed scheme user password host n path query).authority.port,
      m = n ∧ defaultPort? scheme ≠ some m := by
    intro m hm
    simp only [placed] at hm
    split at hm <;> cases hm
    exact ⟨rfl, ‹_›⟩
  refine
    { scheme := hscheme
      authority :=
        { user := fun u hu => ?_
          password := fun p hp => ?_
          host_eq := rfl
          nonempty := hhost.nonempty
          chars := hhost.chars
          port := fun m hm => (hport m hm).1 ▸ hn }
      kept := hhost
      user := fun u hu => ?_
      password := fun p hp => ?_
      port := fun m hm => (hport m hm).2
      absolute := habsolute
      path := hpath
      dotless := hdotless
      query := hquery
      fragment := rfl }
  · obtain ⟨s, rfl, rfl⟩ := Option.map_eq_some_iff.1 hu
    exact ⟨quote_ne_nil fun hs => huser (by rw [hs]), isNameChar_of_mem_quote⟩
  · obtain ⟨s, -, rfl⟩ := Option.map_eq_some_iff.1 hp
    exact isNameChar_of_mem_quote
  · obtain ⟨s, -, rfl⟩ := Option.map_eq_some_iff.1 hu
    exact requote_quote s
  · obtain ⟨s, -, rfl⟩ := Option.map_eq_some_iff.1 hp
    exact requote_quote s

theorem build?_eq_placed (hhost : Host.IsKept host) (hn : n ≤ 65535)
    (hpath : pathQuoting.Keeps path) (hdotless : '.' ∉ path) (hquery : queryQuoting.Keeps query) :
    build? scheme user password host n path query =
      some (placed scheme user password host n path query) := by
  have hrange : ¬ ((n : Int) < 0 ∨ 65535 < (n : Int)) := by omega
  have hclean : cleanPath path = path := by
    rw [cleanPath, if_neg (mt List.contains_iff_mem.1 hdotless)]
  simp only [build?, List.isEmpty_iff, hhost.nonempty, if_false, hhost.encode, Option.bind_eq_bind,
    Option.bind_some, if_neg hrange, hpath.quote_eq, hquery.quote_eq, hclean, Int.toNat_natCast]
  rfl

section

variable (h : (placed scheme user password host n path query).IsPlain host)
include h

theorem named_placed : (placed scheme user password host n path query).named =
    ⟨scheme, user, password, some host, some n, path, query, []⟩ := by
  have hunquote (t : Option (List Char)) : (t.map userQuoting.quote).map unquote = t := by
    rw [Option.map_map]
    cases t with
    | none => rfl
    | some t => exact congrArg some (unquote_quote t)
  have hport : (placed scheme user password host n path query).port? = some n := by
    rw [port?]
    simp only [placed]
    split
    next hdefault => exact hdefault
    · rfl
  have hpath : (placed scheme user password host n path query).pathText = path := by
    have hne : path ≠ [] := by
      have := h.absolute
      rintro rfl
      cases this
    have hpercent : '%' ∉ path := fun hc => (h.path _ hc).2.1 rfl
    rw [pathText]
    simp only [placed, List.isEmpty_iff, hne, false_and, if_false, unquote_eq_self hpercent]
  have hhost : (placed scheme user password host n path query).host? = some host := by
    rw [host?, h.authority.bareHost_eq, h.kept.decode]
  rw [named, hport, hpath, hhost]
  simp only [placed, hunquote]

/-- Where a password is given, that of the URL that is shown is the placeholder. -/
theorem redacted_placed (hpassword : password ≠ some []) :
    (placed scheme user password host n path query).redacted =
      placed scheme user (password.map fun _ => placeholder) host n path query := by
  cases password with
  | none => rfl
  | some p =>
    obtain ⟨c, t, hquote⟩ := List.exists_cons_of_ne_nil
      (quote_ne_nil (s := p) fun hp => hpassword (by rw [hp]))
    have hpresent : (placed scheme user (some p) host n path query).authority.isPresent := by
      rw [Authority.isPresent, Bool.not_eq_true', List.isEmpty_eq_false_iff]
      exact h.authority.text_ne_nil
    have hpassword : (placed scheme user (some p) host n path query).authority.password =
        some (c :: t) := congrArg some hquote
    rw [redacted, hpassword]
    simp only [withPassword?, if_pos hpresent, h.authority.bareHost_eq, Option.getD_some]
    rfl

end

end Url

/-! ### Requests of a configuration -/

/-- The path of an operation is written as it is. -/
theorem Operation.keeps_path (op : Operation) : op.path.toList.head? = some '/' ∧
    Url.pathQuoting.Keeps op.path.toList ∧ '.' ∉ op.path.toList := by
  cases op <;> decide

namespace Config

/-- Where the host of a peer is a name or an address in its usual form, the URL of a request is read
from its text with the scheme and the credentials of the configuration, the host and the port of the
peer, the path of the operation and the query of the settings. The URL that is shown in its place is
read with the same parts but for the password, if there is one. -/
theorem ofText?_requestUrl? {c : Config} {p : Peer} {n : Nat}
    (hscheme : Url.IsScheme c.scheme.toList) (hhost : Url.Host.IsPlain p.host.toList)
    (hport : Numeral.readInt? p.port.toList = some (n : Int)) (hn : n ≤ 65535) (op : Operation)
    (queue : Bool) :
    ∃ u, c.requestUrl? op p queue = some u ∧
      Url.ofText? u.text = some u ∧
      u.named =
        { scheme := c.scheme.toList
          user := given? c.username
          password := given? c.password
          host := some p.host.toList
          port := some n
          path := op.path.toList
          query :=
            if op.takesStatements then
              (Client.settingsText c.level c.transactions queue).toList
            else []
          fragment := [] } ∧
      Url.ofText? u.shown.toList = some u.redacted ∧
      u.redacted.named =
        { u.named with password := (given? c.password).map fun _ => "xxxxx".toList } := by
  obtain ⟨habsolute, hpath, hdotless⟩ := op.keeps_path
  have hkept := hhost.isKept
  have hquery : Url.queryQuoting.Keeps
      (if op.takesStatements then (c.queryText queue).toList else []) := by
    split
    · rw [Client.queryText_eq]
      exact Client.keeps_settingsText _ _ _
    · nofun
  have hplain (password : Option (List Char)) : (Url.placed c.scheme.toList (given? c.username)
      password p.host.toList n op.path.toList _).IsPlain p.host.toList :=
    Url.isPlain_placed hscheme (given?_ne c.username) hkept hn habsolute hpath hdotless hquery
  have hshown := Url.redacted_placed (hplain _) (given?_ne c.password)
  refine ⟨_, ?_, (hplain (given? c.password)).ofText?_text, ?_, ?_, ?_⟩
  · rw [requestUrl?, hport, Option.bind_eq_bind, Option.bind_some,
      Url.build?_eq_placed hkept hn hpath hdotless hquery]
  · rw [Url.named_placed (hplain _), Client.queryText_eq]
  · rw [Url.shown, String.toList_ofList, hshown]
    exact (hplain _).ofText?_text
  · rw [hshown, Url.named_placed (hplain _), Url.named_placed (hplain _)]
    rfl

/-- A configuration whose credentials hold the marks that stand between the parts of URLs. -/
def marked : Config := { username := some "@:/?#[%41é", password := some "]\n:@" }

theorem ofText?_requestUrl?_marked :
    ∃ u, marked.requestUrl? .query ⟨"::1", "80"⟩ true = some u ∧
      Url.ofText? u.text = some u ∧
      u.named =
        { scheme := "http".toList
          user := some "@:/?#[%41é".toList
          password := some "]\n:@".toList
          host := some "::1".toList
          port := some 80
          path := "/db/query".toList
          query := "timings&level=weak&transaction&queue".toList
          fragment := [] } ∧
      Url.ofText? u.shown.toList = some u.redacted ∧
      u.redacted.named = { u.named with password := some "xxxxx".toList } := by
  have hhost : Url.Host.IsPlain "::1".toList :=
    .inr ⟨.v6 [0, 0, 0, 0, 0, 0, 0, 1], by decide +kernel, by decide +kernel⟩
  obtain ⟨u, hu, hread, hnamed, hshown, hredacted⟩ :=
    ofText?_requestUrl? (c := marked) (p := ⟨"::1", "80"⟩) (n := 80)
      ⟨by decide, by simp [marked, Url.isSchemeChar, Url.isAlphanumeric], by decide⟩ hhost
      (by decide) (by decide) .query true
  exact ⟨u, hu, hread, hnamed.trans (by decide +kernel), hshown, hredacted⟩

end Config

end SqlCluster
