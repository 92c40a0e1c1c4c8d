import SqlCluster.Config
import SqlCluster.Proofs.Url.Written

/-!
Connection URLs and back. A connection is written as a URL with all characters of its credentials
escaped that could be taken for something else (`Connection.text`). Reading the URL gives a
configuration with just the parts of the connection, where the last of several settings of a kind
counts, and all else as it is by default (`Connection.ofUrl_text`).
-/

namespace SqlCluster

open Text Url

variable {s : List Char} {c : Char}

/-! ### Lower case -/

theorem Text.lowerAfter_eq_self (h : ∀ c ∈ s, c.toNat < 128 ∧ c.toLower = c)
    (before : List Char) : lowerAfter before s = s := by
  induction s generalizing before with
  | nil => rfl
  | cons c s ih =>
    obtain ⟨⟨hascii, hlower⟩, h⟩ := List.forall_mem_cons.1 h
    have hsigma : c.toNat ≠ 0x3a3 := by omega
    simp only [lowerAfter, if_neg hsigma, lowerChar, if_pos hascii, hlower, ih h]
    rfl

/-- A text of ASCII in lower case stays what it is in lower case. -/
theorem Text.lower_eq_self (h : ∀ c ∈ s, c.toNat < 128 ∧ c.toLower = c) : lower s = s :=
  lowerAfter_eq_self h []

/-! ### Escaped texts -/

/-- The characters that stand for themselves in every part of a URL. -/
def isUnreserved (c : Char) : Bool := isAlphanumeric c || "-._~".toList.contains c

theorem isUnreserved_iff : isUnreserved c ↔ isAlphanumeric c ∨ c ∈ "-._~".toList := by
  simp [isUnreserved]

theorem standAlone_isUnreserved : StandAlone isUnreserved := by
  have hsigns : ∀ c ∈ "-._~".toList, c.toNat < 128 ∧ c ≠ '%' := by simp
  intro c hc
  obtain hc | hc := isUnreserved_iff.1 hc
  · exact isAlphanumeric_standAlone hc
  · exact hsigns c hc

theorem isUnreserved_of_mem_escaped (h : c ∈ escaped isUnreserved s) :
    isUnreserved c ∨ c = '%' := by
  have hdigits : ∀ n < 16, isUnreserved (capitalDigit n) := by decide
  obtain h | h | ⟨n, hn, rfl⟩ := mem_escaped h
  · exact .inl h
  · exact .inr h
  · exact .inl (hdigits n hn)

theorem isNameChar_of_mem_escaped (h : c ∈ escaped isUnreserved s) :
    HostName.isNameChar c ∨ c = '%' := by
  have hsigns : ∀ c ∈ "-._~".toList, c ∈ "-._~!$&'()*+,;=".toList := by simp
  exact (isUnreserved_of_mem_escaped h).imp_left fun hc =>
    isNameChar_iff.2 ((isUnreserved_iff.1 hc).imp_right (hsigns c))

theorem escaped_ne_nil {t : String} (h : t ≠ "") : escaped isUnreserved t.toList ≠ [] := by
  intro hnil
  have hread := unquote_escaped standAlone_isUnreserved t.toList
  rw [hnil] at hread
  exact h (String.toList_eq_nil_iff.1 hread.symm)

/-! ### Parameters -/

namespace Location

/-- A parameter as it is written, its name and value escaped. -/
def parameterText (p : List Char × List Char) : List Char :=
  escaped isUnreserved p.1 ++ '=' :: escaped isUnreserved p.2

/-- Parameters as the query of a connection URL. -/
def queryText (ps : List (List Char × List Char)) : List Char :=
  ['&'].intercalate (ps.map parameterText)

theorem formText_escaped (s : List Char) : formText (escaped isUnreserved s) = s := by
  have hplus : (escaped isUnreserved s).map (fun c => if c = '+' then ' ' else c) =
      escaped isUnreserved s := by
    refine (List.map_congr_left fun c hc => if_neg ?_).trans (List.map_id _)
    rintro rfl
    exact absurd (isUnreserved_of_mem_escaped hc) (by decide)
  rw [formText, hplus, unquoteLossy_escaped standAlone_isUnreserved]

theorem ampersand_notMem_parameterText (p : List Char × List Char) : '&' ∉ parameterText p := by
  have hescaped (s : List Char) : '&' ∉ escaped isUnreserved s := fun hc =>
    absurd (isUnreserved_of_mem_escaped hc) (by decide)
  simp [parameterText, hescaped]

theorem cutAt_parameterText (p : List Char × List Char) :
    cutAt '=' (parameterText p) = (escaped isUnreserved p.1, escaped isUnreserved p.2) :=
  cutAt_append fun hc => absurd (isUnreserved_of_mem_escaped hc) (by decide)

theorem mem_queryText {ps : List (List Char × List Char)} (h : c ∈ queryText ps) :
    isUnreserved c ∨ c = '%' ∨ c = '=' ∨ c = '&' := by
  obtain h | ⟨t, ht, h⟩ := mem_intercalate h
  · exact .inr (.inr (.inr h))
  · obtain ⟨p, -, rfl⟩ := List.mem_map.1 ht
    have hescaped {s : List Char} (hc : c ∈ escaped isUnreserved s) :=
      (isUnreserved_of_mem_escaped hc).imp_right (Or.inl (b := c = '=' ∨ c = '&'))
    obtain h | h := List.mem_append.1 h
    · exact hescaped h
    · obtain h | h := List.mem_cons.1 h
      · exact .inr (.inr (.inl h))
      · exact hescaped h

theorem visible_of_mem_queryText {ps : List (List Char × List Char)} (h : c ∈ queryText ps) :
    0x20 < c.toNat := by
  have hsigns : ∀ c ∈ "-._~".toList, 0x20 < c.toNat := by simp
  obtain h | rfl | rfl | rfl := mem_queryText h
  · exact (isUnreserved_iff.1 h).elim visible_of_isAlphanumeric (hsigns c)
  all_goals decide

/-- Parameters are read from their query. -/
theorem readParameters_queryText (ps : List (List Char × List Char)) :
    readParameters (queryText ps) = ps := by
  cases ps with
  | nil => rfl
  | cons p ps =>
    have hparts : parts '&' (queryText (p :: ps)) = (p :: ps).map parameterText :=
      parts_intercalate (by simp) fun t ht => by
        obtain ⟨q, -, rfl⟩ := List.mem_map.1 ht
        exact ampersand_notMem_parameterText q
    have hkept : ((p :: ps).map parameterText).filter (fun t => !t.isEmpty) =
        (p :: ps).map parameterText :=
      List.filter_eq_self.2 fun t ht => by
        obtain ⟨q, -, rfl⟩ := List.mem_map.1 ht
        simp [parameterText]
    rw [readParameters, hparts, hkept, List.map_map]
    refine (List.map_congr_left fun q _ => ?_).trans (List.map_id _)
    simp only [Function.comp_apply, cutAt_parameterText, formText_escaped, id]

end Location

/-! ### Connections -/

/-- A setting in a connection URL: a level, or a word for whether the cluster is discovered. -/
inductive Setting where
  | level (l : Level)
  | discovery (word : String)

namespace Setting

/-- A setting as a parameter. -/
def parameter : Setting → List Char × List Char
  | level l => ("level".toList, l.name.toList)
  | discovery word => ("disableClusterDiscovery".toList, word.toList)

/-- The level that a setting sets. -/
def level? : Setting → Option Level
  | level l => some l
  | discovery _ => none

/-- What a setting says about discovery. -/
def flag? : Setting → Option Bool
  | level _ => none
  | discovery word => Config.flag? word.toList

/-- A setting has a meaning: a word is one for a truth value. -/
def IsValid (s : Setting) : Prop := s.level?.isSome ∨ s.flag?.isSome

end Setting

/-- What a connection URL tells: where to connect, as whom, and how. -/
structure Connection where
  scheme : String
  user : String
  password : String
  host : String
  port : Nat
  settings : List Setting

namespace Connection

/-- The URL of a connection. -/
def text (k : Connection) : List Char :=
  k.scheme.toList ++ "://".toList ++
    escaped isUnreserved k.user.toList ++ ':' :: escaped isUnreserved k.password.toList ++
    '@' :: (if k.host.toList.contains ':' then '[' :: k.host.toList ++ [']'] else k.host.toList) ++
    ':' :: Nat.toDigits 10 k.port ++
    '?' :: Location.queryText (k.settings.map Setting.parameter)

/-- A character of a host name in lower case. -/
def isHostChar (c : Char) : Bool :=
  ('a' ≤ c && c ≤ 'z') || ('0' ≤ c && c ≤ '9') || c == '-' || c == '.'

/-- A host as connection URLs have it: a name, or an address of version 6 in lower case. -/
def IsHost (host : List Char) : Prop :=
  (host ≠ [] ∧ ∀ c ∈ host, isHostChar c) ∨
    (∃ groups, IpAddress.ofText? host = some (.v6 groups)) ∧ host.map Char.toLower = host

theorem isHostChar_spec (h : isHostChar c) : HostName.isNameChar c ∧ c.toLower = c := by
  have hname : HostName.isNameChar c := by
    simp only [isHostChar, Bool.or_eq_true, beq_iff_eq] at h
    obtain ((h | h) | rfl) | rfl := h
    · exact isNameChar_iff.2 (.inl (by simp [isAlphanumeric, h]))
    · exact isNameChar_iff.2 (.inl (by simp [isAlphanumeric, h]))
    · decide
    · decide
  refine ⟨hname, ?_⟩
  exact forall_ascii (p := fun c => isHostChar c → c.toLower = c) (by decide)
    (toNat_lt_of_isNameChar hname) h

namespace IsHost

variable {host : List Char} (h : IsHost host)
include h

theorem nonempty : host ≠ [] := by
  obtain ⟨hne, -⟩ | ⟨⟨groups, hgroups⟩, -⟩ := h
  · exact hne
  · exact List.ne_nil_of_mem (Host.isBracketable_of_groups? hgroups).1

theorem chars : ∀ c ∈ host, HostName.isNameChar c ∨ c = ':' := by
  obtain ⟨-, hchars⟩ | ⟨⟨groups, hgroups⟩, -⟩ := h
  · exact fun c hc => .inl (isHostChar_spec (hchars c hc)).1
  · exact (Host.isBracketable_of_groups? hgroups).2.1

theorem lower : ∀ c ∈ host, c.toLower = c := by
  obtain ⟨-, hchars⟩ | ⟨-, hlower⟩ := h
  · exact fun c hc => (isHostChar_spec (hchars c hc)).2
  · exact map_toLower_eq_self.1 hlower

theorem hostFault?_eq (hcolon : ':' ∈ host) : Location.hostFault? host = none := by
  obtain ⟨-, hchars⟩ | ⟨⟨groups, hgroups⟩, -⟩ := h
  · exact absurd (hchars ':' hcolon) (by decide)
  · have hmem := (IpAddress.mem_of_groups? (IpAddress.ofText?_eq_v6 hgroups)).2
    have hv : host.head? ≠ some 'v' := fun hv =>
      absurd (hmem 'v' (List.mem_of_head? hv)) (by decide)
    have hzone : '%' ∉ host := fun hc => absurd (hmem '%' hc) (by decide)
    rw [Location.hostFault?, if_neg hv, cutFirst?_eq_none.2 hzone]
    simp [hgroups]

end IsHost

/-- The parts of a connection are such as can be told in a URL. -/
structure IsValid (k : Connection) : Prop where
  scheme : k.scheme = "http" ∨ k.scheme = "https"
  user : k.user ≠ ""
  password : k.password ≠ ""
  host : IsHost k.host.toList
  port_pos : 0 < k.port
  port_le : k.port ≤ 65535
  settings : ∀ s ∈ k.settings, s.IsValid

/-! ### Reading them -/

variable {k : Connection}

/-- The authority in the URL of a connection. -/
def authority (k : Connection) : Authority where
  user := some (escaped isUnreserved k.user.toList)
  password := some (escaped isUnreserved k.password.toList)
  host := Authority.written k.host.toList
  port := some k.port

theorem text_eq (k : Connection) :
    k.text = k.scheme.toList ++ ':' :: ('/' :: '/' :: k.authority.text ++
      '?' :: Location.queryText (k.settings.map Setting.parameter)) := by
  simp [text, Authority.text, Authority.credentials, Authority.portText, authority,
    Authority.written]

theorem setParameters_cons {c c' : Config} {p : List Char × List Char}
    (h : c.setParameter p.1 p.2 = .ok c') (ps : List (List Char × List Char)) :
    c.setParameters (p :: ps) = c'.setParameters ps := by
  rw [Config.setParameters, h]
  rfl

theorem setParameter_level (c : Config) (l : Level) :
    c.setParameter "level".toList l.name.toList = .ok { c with level := l } := by
  have hname : Level.ofName? l.name = some l := by cases l <;> decide
  simp only [Config.setParameter, if_true, Config.setLevel, String.ofList_toList, Level.ofValue,
    hname]

theorem setParameter_discovery (c : Config) {word : String} {b : Bool}
    (h : Config.flag? word.toList = some b) :
    c.setParameter "disableClusterDiscovery".toList word.toList =
      .ok { c with disableDiscovery := b } := by
  rw [Config.setParameter, if_neg (by decide), if_neg (by decide), if_pos rfl, h]

/-- Settings are made one after the other, and the last one of each kind counts. -/
theorem setParameters_settings {ss : List Setting} (h : ∀ s ∈ ss, s.IsValid) (c : Config) :
    c.setParameters (ss.map Setting.parameter) = .ok
      { c with
        level := (ss.filterMap Setting.level?).getLast?.getD c.level
        disableDiscovery := (ss.filterMap Setting.flag?).getLast?.getD c.disableDiscovery } := by
  induction ss generalizing c with
  | nil => rfl
  | cons s ss ih =>
    obtain ⟨hs, hss⟩ := List.forall_mem_cons.1 h
    rw [List.map_cons]
    cases s with
    | level l =>
      rw [setParameters_cons (setParameter_level c l), ih hss]
      simp [Setting.level?, Setting.flag?, List.getLast?_cons]
    | discovery word =>
      obtain hs | hs := hs
      · cases hs
      obtain ⟨b, hb⟩ := Option.isSome_iff_exists.1 hs
      rw [setParameters_cons (setParameter_discovery c hb), ih hss,
        List.filterMap_cons_some (b := b) hb, List.getLast?_cons]
      rfl

namespace IsValid

variable (h : k.IsValid)
include h

theorem isScheme : IsScheme k.scheme.toList := by
  obtain hk | hk := h.scheme <;> rw [hk] <;>
    exact ⟨by decide, by simp [Url.isSchemeChar, Url.isAlphanumeric], by decide⟩

theorem isPlain : k.authority.IsPlain k.host.toList where
  user := by
    rintro _ ⟨⟩
    exact ⟨escaped_ne_nil h.user, fun c => isNameChar_of_mem_escaped⟩
  password := by
    rintro _ ⟨⟩
    exact fun c => isNameChar_of_mem_escaped
  host_eq := rfl
  nonempty := h.host.nonempty
  chars c hc := (h.host.chars c hc).imp_right .inr
  port := by
    rintro _ ⟨⟩
    exact h.port_le

theorem fault?_eq_none : Location.fault? k.authority.text = none := by
  have hbrackets : Location.bracketFault? k.authority.text = none := by
    rw [Location.bracketFault?, h.isPlain.contains_eq (.inl rfl), h.isPlain.contains_eq (.inr rfl),
      if_neg (by simp)]
    by_cases hcolon : ':' ∈ k.host.toList
    · simp [hcolon, h.isPlain.bracketed?_text hcolon, h.host.hostFault?_eq hcolon]
    · simp [hcolon]
  rw [Location.fault?, hbrackets]
  simp [h.isPlain.holdsNoHiddenDelimiter]

theorem credentials_eq :
    Location.credentials k.authority.text = (k.user.toList, k.password.toList) := by
  have hcolon : ':' ∉ escaped isUnreserved k.user.toList := fun hc =>
    absurd (isUnreserved_of_mem_escaped hc) (by decide)
  have hcut : cutLast? '@' k.authority.text =
      some (escaped isUnreserved k.user.toList ++ ':' :: escaped isUnreserved k.password.toList,
        k.authority.host ++ k.authority.portText) := by
    rw [Authority.text, Authority.credentials]
    simp only [List.append_assoc _ _ k.authority.portText]
    exact (congrArg (cutLast? '@') (by simp [authority])).trans
      (cutLast?_append h.isPlain.at_notMem)
  rw [Location.credentials, hcut]
  simp only [cutAt_append hcolon, unquoteLossy_escaped standAlone_isUnreserved]

theorem lowerHost_eq : Location.lowerHost k.host.toList = k.host.toList := by
  have hzone : '%' ∉ k.host.toList := fun hc => absurd (h.host.chars '%' hc) (by decide)
  rw [Location.lowerHost, cutFirst?_eq_none.2 hzone]
  refine lower_eq_self fun c hc => ⟨?_, h.host.lower c hc⟩
  obtain hc | rfl := h.host.chars c hc
  · exact toNat_lt_of_isNameChar hc
  · decide

theorem readPort_eq : Location.readPort (Nat.toDigits 10 k.port) = .ok k.port := by
  have hlength : (Nat.toDigits 10 k.port).length ≤ 5 :=
    (Nat.length_toDigits_le_iff (by decide) (by decide)).2
      (Nat.lt_of_le_of_lt h.port_le (by decide))
  have hdigits : (Nat.toDigits 10 k.port).all Char.isDigit :=
    List.all_eq_true.2 Numeral.isDigit_of_mem_toDigits
  have hlimit : ¬ Numeral.digitLimit < (Nat.toDigits 10 k.port).length :=
    Nat.not_lt.2 (Nat.le_trans hlength (by decide))
  rw [Location.readPort, if_neg (by simp), if_neg (by simp [hdigits]), if_neg hlimit,
    Numeral.digitsValue_toDigits, if_pos h.port_le]

theorem visible : ∀ c ∈ k.text, 0x20 < c.toNat := by
  have hauthority : ∀ c ∈ k.authority.text, 0x20 < c.toNat := fun c hc =>
    (isAuthorityChar_spec (h.isPlain.isAuthorityChar_of_mem hc)).1
  rw [text_eq]
  simp only [List.forall_mem_append, List.forall_mem_cons]
  exact ⟨h.isScheme.visible, by decide, ⟨by decide, by decide, hauthority⟩, by decide,
    fun c => Location.visible_of_mem_queryText⟩

/-- The URL of a connection is cut into the parts that it was written from. -/
theorem ofText_text : Location.ofText k.text = .ok
    { scheme := k.scheme.toList
      user := k.user.toList
      password := k.password.toList
      host := k.host.toList
      port := k.port
      parameters := k.settings.map Setting.parameter } := by
  have hends : ∀ c ∈ k.authority.text, endsAuthority c = false := fun c hc =>
    (isAuthorityChar_spec (h.isPlain.isAuthorityChar_of_mem hc)).2.1
  have hfragment : '#' ∉ '?' :: Location.queryText (k.settings.map Setting.parameter) := fun hc =>
    absurd (Location.mem_queryText (List.mem_of_ne_of_mem (by decide) hc)) (by decide)
  have hplace : Authority.cutPort (Authority.place k.authority.text) =
      (k.host.toList, Nat.toDigits 10 k.port) := by
    rw [Authority.text, List.append_assoc,
      Authority.place_credentials_append h.isPlain.user_spec h.isPlain.at_notMem]
    exact Authority.cutPort_written h.isPlain.bracket_notMem.1 h.isPlain.bracket_notMem.2
  have hcut : cutAuthority ('/' :: '/' :: k.authority.text ++
      '?' :: Location.queryText (k.settings.map Setting.parameter)) =
      (k.authority.text, '?' :: Location.queryText (k.settings.map Setting.parameter)) :=
    cutAuthority_written hends (by simp [endsAuthority])
  have hquery : cutAt '?' ('?' :: Location.queryText (k.settings.map Setting.parameter)) =
      ([], Location.queryText (k.settings.map Setting.parameter)) :=
    cutAt_append (a := []) (by simp)
  rw [Location.ofText, stripped_eq h.visible, text_eq, h.isScheme.cutScheme_append]
  simp only [hcut, h.fault?_eq_none, hplace, h.readPort_eq, h.credentials_eq, h.lowerHost_eq,
    cutAt_of_notMem hfragment, hquery, Location.readParameters_queryText]
  rfl

end IsValid

/-- A connection is read from its URL: each of its parts becomes that of the configuration, the last
setting of either kind counts, and all else is as it is by default. -/
theorem ofUrl_text (h : k.IsValid) : Config.ofUrl (String.ofList k.text) = .ok
    { url := String.ofList k.text
      scheme := k.scheme
      host := k.host
      port := k.port.repr
      username := some k.user
      password := some k.password
      level := (k.settings.filterMap Setting.level?).getLast?.getD .weak
      disableDiscovery := (k.settings.filterMap Setting.flag?).getLast?.getD false } := by
  have hstart : "http".toList <+: k.text := by
    rw [text_eq]
    obtain hk | hk := h.scheme <;> rw [hk]
    · exact ⟨_, rfl⟩
    · exact ⟨'s' :: _, rfl⟩
  have hlength : ¬ (String.ofList k.text).length < 7 := by
    have hscheme : 4 ≤ k.scheme.toList.length := by
      obtain hk | hk := h.scheme <;> rw [hk] <;> decide
    rw [String.length_ofList, text_eq, List.length_append, List.length_cons, List.cons_append,
      List.cons_append, List.length_cons, List.length_cons]
    omega
  have hscheme : k.scheme.toList = "http".toList ∨ k.scheme.toList = "https".toList := by
    simpa only [String.toList_inj] using h.scheme
  have hgiven {t : String} (ht : t ≠ "") : Config.nonempty? t.toList = some t := by
    rw [Config.nonempty?, if_neg (by simpa using ht), String.ofList_toList]
  have hhost : k.host ≠ "" := fun hk => h.host.nonempty (by rw [hk]; rfl)
  have hlocation : Location.ofText (String.ofList k.text).toList = _ :=
    (congrArg Location.ofText String.toList_ofList).trans h.ofText_text
  rw [Config.ofUrl, if_neg hlength, if_neg (by simpa using List.isPrefixOf_iff_prefix.2 hstart),
    hlocation]
  simp only [if_pos hscheme, setParameters_settings h.settings, Config.ofLocation, hgiven h.user,
    hgiven h.password, hgiven hhost, String.ofList_toList, Option.getD_some,
    if_neg (Nat.ne_of_gt h.port_pos)]

/-- A connection whose credentials hold the marks that stand between the parts of URLs, and of which
each setting is made twice. -/
def marked : Connection where
  scheme := "https"
  user := "m@ry:/?#[%41é"
  password := "]@:&="
  host := "fe80::0:1"
  port := 65535
  settings := [.level .strong, .discovery "NO", .level .none, .discovery "True"]

theorem isValid_marked : marked.IsValid where
  scheme := .inr rfl
  user := by decide
  password := by decide
  host := .inr ⟨⟨[0xfe80, 0, 0, 0, 0, 0, 0, 1], by decide +kernel⟩, by decide⟩
  port_pos := by decide
  port_le := by decide
  settings := by
    simp only [marked, List.forall_mem_cons]
    exact ⟨.inl rfl, .inr (by decide +kernel), .inl rfl, .inr (by decide +kernel), nofun⟩

theorem ofUrl_text_marked :
    Config.ofUrl ("https://m%40ry%3A%2F%3F%23%5B%2541%C3%A9:%5D%40%3A%26%3D@[fe80::0:1]:65535" ++
        "?level=strong&disableClusterDiscovery=NO&level=none&disableClusterDiscovery=True") =
      .ok
        { url := "https://m%40ry%3A%2F%3F%23%5B%2541%C3%A9:%5D%40%3A%26%3D@[fe80::0:1]:65535" ++
            "?level=strong&disableClusterDiscovery=NO&level=none&disableClusterDiscovery=True"
          scheme := "https"
          host := "fe80::0:1"
          port := "65535"
          username := some "m@ry:/?#[%41é"
          password := some "]@:&="
          level := .none
          disableDiscovery := true } := by
  have htext : String.ofList marked.text =
      "https://m%40ry%3A%2F%3F%23%5B%2541%C3%A9:%5D%40%3A%26%3D@[fe80::0:1]:65535" ++
        "?level=strong&disableClusterDiscovery=NO&level=none&disableClusterDiscovery=True" := by
    decide +kernel
  have hlevel : (marked.settings.filterMap Setting.level?).getLast? = some .none := rfl
  have hflag : (marked.settings.filterMap Setting.flag?).getLast? = some true := by
    decide +kernel
  have hport : marked.port.repr = "65535" := by decide
  have hread := ofUrl_text isValid_marked
  rw [htext, hlevel, hflag, hport] at hread
  exact hread

end Connection

end SqlCluster
