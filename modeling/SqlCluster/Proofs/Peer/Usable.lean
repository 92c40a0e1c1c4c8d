import SqlCluster.Proofs.Config.Parameter
import SqlCluster.Proofs.Peer.Address
import SqlCluster.Request

/-!
Usable peers. A peer that an address or a connection URL names has a host and a port from 1 to 65535
(`Peer.IsUsable`), so whether there are URLs for it is up to its host alone: that must be an address
or a name (`Url.Host.IsBuildable`), which the readers of addresses do not check.
-/

namespace SqlCluster

open Text

/-! ### Hosts that can be built -/

namespace Url.Host

/-- A host that URLs can be built with: an address, a name of letters, digits, some signs and
escapes, or a name in another script that has an ASCII form. -/
def IsBuildable (host : List Char) : Prop :=
  (address? host).isSome ∨ (HostName.isAscii host ∧ isName (host.map Char.toLower)) ∨
    (¬ HostName.isAscii host ∧ (HostName.toAscii? host).isSome)

instance : DecidablePred IsBuildable := fun _ => inferInstanceAs (Decidable (_ ∨ _ ∨ _))

theorem isSome_encode?_iff {host : List Char} :
    (encode? true host).isSome ↔ IsBuildable host := by
  rw [encode?, IsBuildable]
  split
  · next h => simp [h]
  · next h => split <;> simp_all

end Url.Host

/-- With a host and a port in range, a URL is built exactly if the host is one to build with. -/
theorem Url.isSome_build?_iff {scheme host path query : List Char}
    {user password : Option (List Char)} {port : Int} (hhost : host ≠ []) (hport : 0 ≤ port)
    (hle : port ≤ 65535) :
    (build? scheme user password host port path query).isSome ↔ Host.IsBuildable host := by
  have hrange : ¬ (port < 0 ∨ 65535 < port) := by omega
  rw [← Host.isSome_encode?_iff]
  simp only [build?, List.isEmpty_iff, if_neg hhost, if_neg hrange]
  cases Host.encode? true host with
  | none => rfl
  | some h => rfl

/-! ### Ports -/

theorem Url.Authority.port?_le {s : List Char} {n : Nat} (h : port? s = some (some n)) :
    n ≤ 65535 := by
  rw [port?] at h
  split at h
  · simp at h
  · split at h
    · next m _ =>
      split at h
      · simp only [Option.some.injEq] at h
        omega
      · simp at h
    · simp at h

theorem Url.Authority.ofText?_port_le {s : List Char} {a : Authority} {n : Nat}
    (h : ofText? s = some a) (hn : a.port = some n) : n ≤ 65535 := by
  simp only [ofText?, Option.bind_eq_bind, Option.bind_eq_some_iff, Option.some.injEq] at h
  obtain ⟨port, hport, rfl⟩ := h
  obtain rfl : port = some n := hn
  exact port?_le hport

/-- The authority of a URL is none at all, or it is cut from its text, with quoted credentials and
the host as it is encoded, if there is one. -/
theorem Url.readAuthority?_cases {scheme s : List Char} {a : Authority}
    (h : readAuthority? scheme s = some a) :
    a = .absent ∨ ∃ b host, Authority.ofText? s = some b ∧
      (host = [] ∨ Host.encode? false b.host = some host) ∧
      a = ⟨b.user.map userQuoting.requote, b.password.map userQuoting.requote, host, b.port⟩ := by
  rw [readAuthority?] at h
  split at h
  · cases h
  split at h
  · cases h
    exact .inl rfl
  obtain ⟨b, hb, h⟩ := Option.bind_eq_some_iff.1 h
  obtain ⟨-, h⟩ := Option.ite_none_left_eq_some.1 h
  split at h
  · cases h
    exact .inr ⟨b, [], hb, .inl rfl, rfl⟩
  · obtain ⟨host, hhost, h⟩ := Option.bind_eq_some_iff.1 h
    cases h
    exact .inr ⟨b, host, hb, .inr hhost, rfl⟩

theorem Url.readAuthority?_port_le {scheme s : List Char} {a : Authority} {n : Nat}
    (h : readAuthority? scheme s = some a) (hn : a.port = some n) : n ≤ 65535 := by
  rcases readAuthority?_cases h with rfl | ⟨b, host, hb, -, rfl⟩
  · cases hn
  · exact Authority.ofText?_port_le hb hn

theorem Url.defaultPort?_le {scheme : List Char} {n : Nat} (h : defaultPort? scheme = some n) :
    n ≤ 65535 := by
  rw [defaultPort?] at h
  split at h
  · cases h
    decide
  split at h
  · cases h
    decide
  split at h
  · cases h
    decide
  · cases h

/-- No URL has a port beyond 65535. -/
theorem Url.port?_le_of_ofText? {s : List Char} {u : Url} {n : Nat} (h : ofText? s = some u)
    (hn : u.port? = some n) : n ≤ 65535 := by
  simp only [ofText?, Option.bind_eq_bind, Option.bind_eq_some_iff, Option.some.injEq] at h
  obtain ⟨a, ha, rfl⟩ := h
  simp only [port?, Option.orElse_eq_orElse, Option.orElse_eq_or, Option.or_eq_some_iff] at hn
  obtain hn | ⟨-, hn⟩ := hn
  · exact readAuthority?_port_le ha hn
  · exact defaultPort?_le hn

/-! ### Usable peers -/

/-- A peer with a host and a port from 1 to 65535. -/
structure Peer.IsUsable (p : Peer) : Prop where
  host_ne : p.host.toList ≠ []
  port : ∃ n : Nat, Numeral.readInt? p.port.toList = some (n : Int) ∧ 0 < n ∧ n ≤ 65535

/-- Whether there is a URL for a usable peer is up to its host. -/
theorem Peer.IsUsable.isSome_requestUrl?_iff {p : Peer} (h : p.IsUsable) (c : Config)
    (op : Operation) (queue : Bool) :
    (c.requestUrl? op p queue).isSome ↔ Url.Host.IsBuildable p.host.toList := by
  obtain ⟨hhost, n, hn, -, hle⟩ := h
  rw [Config.requestUrl?, hn, Option.bind_eq_bind, Option.bind_some]
  exact Url.isSome_build?_iff hhost (Int.natCast_nonneg n) (by omega)

/-- The port of a peer where a number may be missing, with zero for a missing one. -/
theorem Peer.exists_port_repr {n : Nat} (h : n ≤ 65535) :
    ∃ m : Nat, 0 < m ∧ m ≤ 65535 ∧ (if n = 0 then defaultPort else n.repr) = m.repr := by
  split
  · exact ⟨4001, by decide, by decide, by decide⟩
  next hne => exact ⟨n, Nat.pos_of_ne_zero hne, h, rfl⟩

/-- The URL, the host and the port of a peer that a URL names. -/
theorem Peer.ofUrl_cases {address : List Char} {p : Peer} (h : ofUrl address = .ok p) :
    ∃ u, Url.ofText? address = some u ∧ u.host? = some p.host.toList ∧ p.host.toList ≠ [] ∧
      ∃ n : Nat, 0 < n ∧ n ≤ 65535 ∧ p.port = n.repr := by
  rw [ofUrl] at h
  split at h
  · cases h
  next u hu =>
    split at h
    · cases h
    · cases h
    next host hne hhost =>
      cases h
      refine ⟨u, hu, by simpa using hhost, by simpa using hne, ?_⟩
      split
      · exact exists_port_repr (Nat.zero_le _)
      · exact exists_port_repr (Nat.zero_le _)
      next n hn hport =>
        have hrepr := exists_port_repr (Url.port?_le_of_ofText? hu hport)
        rwa [if_neg (by simpa using hn)] at hrepr

theorem Peer.isUsable_of_ofUrl {address : List Char} {p : Peer} (h : ofUrl address = .ok p) :
    p.IsUsable := by
  obtain ⟨u, -, -, hhost, n, hpos, hle, hport⟩ := ofUrl_cases h
  refine ⟨hhost, ?_⟩
  rw [hport]
  exact (isPort_repr hpos hle).value

theorem Peer.isUsable_of_ofHostPort {address : List Char} {p : Peer}
    (h : ofHostPort address = .ok p) : p.IsUsable := by
  obtain ⟨host, -, hhost, hport, -⟩ := ofHostPort_cases h
  exact ⟨hhost, hport.value⟩

/-- Every peer that an address names is usable. -/
theorem Peer.isUsable_of_ofAddress {address : String} {p : Peer} (h : ofAddress address = .ok p) :
    p.IsUsable := by
  simp only [ofAddress] at h
  split at h
  · exact isUsable_of_ofUrl h
  · exact isUsable_of_ofHostPort h

/-! ### The peer of a connection URL -/

theorem Location.readPort_le {s : List Char} {n : Nat} (h : readPort s = .ok n) : n ≤ 65535 := by
  rw [readPort] at h
  split at h
  · cases h
    decide
  split at h
  · cases h
  split at h
  · cases h
  split at h
  · cases h
    assumption
  · cases h

theorem Location.port_le_of_ofText {s : List Char} {l : Location} (h : ofText s = .ok l) :
    l.port ≤ 65535 := by
  simp only [ofText] at h
  split at h
  · cases h
  next =>
    cases hport : readPort (Url.Authority.cutPort (Url.Authority.place
      (Url.cutAuthority (Url.cutScheme (Url.stripped s)).2).1)).2 with
    | error cause => rw [hport] at h; cases h
    | ok n =>
      rw [hport] at h
      cases h
      exact readPort_le hport

/-- The peer of every connection URL that is accepted is usable. -/
theorem Config.isUsable_of_ofUrl {url : String} {c : Config} (h : ofUrl url = .ok c) :
    Peer.IsUsable ⟨c.host, c.port⟩ := by
  obtain ⟨l, hl, -, hset⟩ := exists_location_of_ofUrl h
  obtain ⟨level, timeout, disableDiscovery, rfl⟩ := setParameters_eq hset
  constructor
  · simpa using host_ofLocation_ne url l
  · obtain ⟨n, hpos, hle, hport⟩ := Peer.exists_port_repr (Location.port_le_of_ofText hl)
    show ∃ n : Nat, Numeral.readInt?
      (if l.port = 0 then Peer.defaultPort else l.port.repr).toList = some (n : Int) ∧ _
    rw [hport]
    exact (Peer.isPort_repr hpos hle).value

end SqlCluster
