import SqlCluster.Proofs.Number.NotANumber
import SqlCluster.Proofs.Peer.Usable

/-!
What is accepted of a connection URL. Its configuration has a scheme of the web, a host, a port from
1 to 65535, and no credentials that are empty (`Config.IsSound`), whatever its parameters are. Its
timeout is above zero exactly if the last one among its parameters does not name what is not a
number (`Config.isSound_of_ofUrl`): that is neither below zero nor zero, and nothing else is asked
of it.
-/

namespace SqlCluster

/-- A double that is not refused as zero or below is above zero, if it is a number. -/
theorem Double.isPositive_iff {x : Double} (h : x.isNonpositive = false) :
    x.isPositive ↔ x ≠ .nan := by
  cases x with
  | nan => simp [isPositive]
  | infinity negative => simpa [isPositive, isNonpositive] using h
  | finite negative m q hq =>
    simp only [isNonpositive, Bool.or_eq_false_iff, beq_eq_false_iff_ne] at h
    simp [isPositive, h]

/-- A number that is greater than zero. -/
def Amount.IsPositive : Amount → Prop
  | .whole n => 0 < n
  | .real x => x.isPositive

instance : DecidablePred Amount.IsPositive
  | .whole n => inferInstanceAs (Decidable (0 < n))
  | .real x => inferInstanceAs (Decidable (x.isPositive = true))

namespace Config

variable {c : Config} {url : String}

/-- A configuration that says where to connect, and as whom if at all. -/
structure IsSound (c : Config) : Prop where
  scheme : c.scheme = "http" ∨ c.scheme = "https"
  host : c.host ≠ ""
  port : ∃ n : Nat, 0 < n ∧ n ≤ 65535 ∧ c.port = n.repr
  username : c.username ≠ some ""
  password : c.password ≠ some ""

theorem isSound_ofLocation {l : Location}
    (hscheme : l.scheme = "http".toList ∨ l.scheme = "https".toList) (hport : l.port ≤ 65535) :
    (ofLocation url l).IsSound := by
  constructor
  · show String.ofList l.scheme = "http" ∨ String.ofList l.scheme = "https"
    rcases hscheme with h | h <;> rw [h]
    · exact .inl rfl
    · exact .inr rfl
  · exact host_ofLocation_ne url l
  · exact Peer.exists_port_repr hport
  · exact nonempty?_ne l.user
  · exact nonempty?_ne l.password

/-- Every configuration of a connection URL is sound, and its timeout is above zero unless the last
one among the parameters names what is not a number. -/
theorem isSound_of_ofUrl (h : ofUrl url = .ok c) : c.IsSound ∧
    ∃ l, Location.ofText url.toList = .ok l ∧
      (c.timeout.IsPositive ↔
        ∀ value ∈ (timeouts l.parameters).getLast?, ¬ Numeral.NamesNan value) := by
  obtain ⟨l, hl, hscheme, hset⟩ := exists_location_of_ofUrl h
  refine ⟨?_, l, hl, ?_⟩
  · have hsound : (ofLocation url l).IsSound :=
      isSound_ofLocation hscheme (Location.port_le_of_ofText hl)
    obtain ⟨level, timeout, disableDiscovery, rfl⟩ := setParameters_eq hset
    exact ⟨hsound.scheme, hsound.host, hsound.port, hsound.username, hsound.password⟩
  · rcases setParameters_timeout hset with
      ⟨hnone, htimeout⟩ | ⟨value, x, hlast, hx, hpositive, htimeout⟩
    · have hdefault : (ofLocation url l).timeout.IsPositive := by
        show (Amount.real (Double.ofRatio false 10 1)).IsPositive
        decide +kernel
      rw [htimeout, hnone]
      exact iff_of_true hdefault nofun
    · rw [htimeout, hlast]
      simp only [Option.mem_some_iff, forall_eq', ← Numeral.readDouble?_eq_nan_iff, hx,
        Option.some.injEq]
      exact Double.isPositive_iff hpositive

theorem isSound_of_ofUrl_overridden : ∃ c l,
    ofUrl "https://m%40ry:@N1:65535/?timeout=nan&level=none&timeout=%20%2BInfinity" = .ok c ∧
    Location.ofText
      "https://m%40ry:@N1:65535/?timeout=nan&level=none&timeout=%20%2BInfinity".toList = .ok l ∧
    c.IsSound ∧ c.timeout.IsPositive ∧
    ∀ value ∈ (timeouts l.parameters).getLast?, ¬ Numeral.NamesNan value := by
  obtain ⟨c, hc, hinfinity⟩ := exists_of_map_toOption (f := Config.timeout)
    (x := ofUrl "https://m%40ry:@N1:65535/?timeout=nan&level=none&timeout=%20%2BInfinity")
    (b := .real (.infinity false)) (by decide +kernel)
  obtain ⟨hsound, l, hl, htimeout⟩ := isSound_of_ofUrl hc
  have hpositive : c.timeout.IsPositive := by
    rw [hinfinity]
    decide
  exact ⟨c, l, hc, hl, hsound, hpositive, htimeout.1 hpositive⟩

/-- What is not a number is accepted as a timeout. -/
theorem ofUrl_timeout_nan : ∃ c, ofUrl "http://localhost:4001?timeout=nan" = .ok c ∧
    c.timeout = .real .nan ∧ ¬ c.timeout.IsPositive := by
  obtain ⟨c, hc, hnan⟩ := exists_of_map_toOption (f := Config.timeout)
    (x := ofUrl "http://localhost:4001?timeout=nan") (b := .real .nan) (by decide +kernel)
  refine ⟨c, hc, hnan, ?_⟩
  rw [hnan]
  decide

end Config

end SqlCluster
