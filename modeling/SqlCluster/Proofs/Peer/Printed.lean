import SqlCluster.Proofs.Client.Snapshot
import SqlCluster.Proofs.Number.NotANumber
import SqlCluster.Proofs.Url.HostName

/-!
Printed peers. The printed form of a peer, which has no brackets, is an address of that peer
(`Peer.ofAddress_text`), as long as the host of a URL is not itself in brackets or blanks. Peers
with ports are told apart by their printed forms, since no port holds a colon
(`Peer.text_injective`), and so what a client tells of its leader and its peers identifies them
(`Peer.printed_identifies`).
-/

namespace SqlCluster

open Text

/-! ### Ports without a colon -/

namespace Numeral

variable {s t : List Char} {c : Char}

theorem mem_of_withoutUnderscores? {last : Option Char} (h : withoutUnderscores? last s = some t)
    (hc : c ∈ s) (hne : c ≠ '_') : c ∈ t := by
  induction s generalizing last t with
  | nil => cases hc
  | cons d s ih =>
    rw [withoutUnderscores?] at h
    split at h
    next hd =>
      obtain ⟨-, h⟩ := Option.ite_none_right_eq_some.1 h
      rcases List.mem_cons.1 hc with rfl | hc
      · exact absurd hd hne
      · exact ih h hc
    · obtain ⟨-, h⟩ := Option.ite_none_left_eq_some.1 h
      obtain ⟨rest, hrest, rfl⟩ := Option.map_eq_some_iff.1 h
      rcases List.mem_cons.1 hc with rfl | hc
      · exact List.mem_cons_self
      · exact List.mem_cons_of_mem d (ih hrest hc)

theorem colon_notMem_of_readInt? {n : Int} (h : readInt? s = some n) : ':' ∉ s := by
  intro hc
  obtain ⟨digits, hdigits, -, hall, -⟩ := readInt?_eq_some.1 h
  have hplain : ':' ∈ plain s := mem_trim (List.mem_map.2 ⟨':', hc, by decide⟩) (by decide)
  rcases mem_cutSign hplain with h | h | hbody
  · exact absurd h (by decide)
  · exact absurd h (by decide)
  · have hdigit := hall ':' (mem_of_withoutUnderscores? hdigits hbody (by decide))
    exact absurd hdigit (by decide)

end Numeral

/-! ### Hosts of URLs -/

namespace Url

variable {s host : List Char}

/-- The host of a URL holds no slash. -/
theorem slash_notMem_of_host? {u : Url} (h : ofText? s = some u) (hhost : u.host? = some host) :
    '/' ∉ host := by
  intro hc
  rcases Host.mem_of_decode? hhost hc with hc | hc | hc
  · have hends := (host_of_ofText? h (Authority.mem_of_mem_bareHost hc)).2
    exact absurd hends (by decide)
  · exact absurd hc (by decide)
  · rcases hc with hc | hc
    · exact absurd hc (by decide)
    · exact absurd hc (by decide)

/-- Whether the host of a URL can be told from its surroundings: it has no blanks, and no bracket at
either end. -/
def IsHostBare (u : Url) : Prop := ∀ host, u.host? = some host →
  (∀ c ∈ host, isBlank c = false) ∧ IsTrimmed Peer.isBracket host

end Url

namespace Peer

variable {p q : Peer} {address : String}

theorem toList_text (p : Peer) : p.text.toList = p.host.toList ++ ':' :: p.port.toList := by
  simp [text]

/-! ### Reading what is printed -/

/-- The printed form of a host with a port is cut into the two again. -/
theorem ofHostPort_text (hne : p.host.toList ≠ []) (hhost : IsTrimmed isBracket p.host.toList)
    (hport : IsPort p.port.toList) : ofHostPort p.text.toList = .ok p := by
  have htrim : trim isBracket p.host.toList = p.host.toList := by
    have hnone : ∀ c ∈ ([] : List Char), isBracket c := nofun
    have h := trim_append hhost hne hnone hnone
    rwa [List.append_nil, List.nil_append] at h
  rw [toList_text, ofHostPort_append (by rwa [htrim]) hport, htrim, String.ofList_toList,
    String.ofList_toList]

/-- A peer that a URL names is read from its printed form. -/
theorem ofAddress_text_of_ofUrl {url : List Char}
    (hbare : ∀ u, Url.ofText? url = some u → u.IsHostBare) (h : ofUrl url = .ok p) :
    ofAddress p.text = .ok p := by
  obtain ⟨u, hu, hhost, hne, n, hpos, hle, hport⟩ := ofUrl_cases h
  obtain ⟨hblank, htrimmed⟩ := hbare u hu p.host.toList hhost
  have hslash : '/' ∉ p.host.toList := Url.slash_notMem_of_host? hu hhost
  have hdigits : ∀ c ∈ p.port.toList, c.isDigit := by
    rw [hport, Nat.toList_repr]
    exact Numeral.isDigit_of_mem_toDigits
  have hchars : ∀ c ∈ p.text.toList, isBlank c = false ∧ c ≠ '/' := by
    intro c hc
    rw [toList_text] at hc
    rcases List.mem_append.1 hc with hc | hc
    · exact ⟨hblank c hc, fun heq => hslash (heq ▸ hc)⟩
    · rcases List.mem_cons.1 hc with rfl | hc
      · exact ⟨by decide, by decide⟩
      · refine ⟨isBlank_of_decimalValue? (decimalValue?_of_isDigit (hdigits c hc)), ?_⟩
        intro hslash
        subst hslash
        exact absurd (hdigits '/' hc) (by decide)
  rw [ofAddress_eq_ofHostPort hchars]
  refine ofHostPort_text hne htrimmed ?_
  rw [hport]
  exact isPort_repr hpos hle

/-- A peer that a host with a port names is read from its printed form. -/
theorem ofAddress_text_of_ofHostPort (hblank : ∀ c ∈ address.toList, isBlank c = false)
    (hurl : ¬ isUrl address.toList) (h : ofHostPort address.toList = .ok p) :
    ofAddress p.text = .ok p := by
  obtain ⟨host, hhost, hne, hport, haddress⟩ := ofHostPort_cases h
  obtain ⟨before, behind, hsplit, -, -, htrimmed⟩ := exists_trim isBracket host
  rw [← hhost] at hsplit htrimmed
  obtain ⟨rest, hrest⟩ : ∃ rest, address.toList = host ++ rest := by
    rcases haddress with ⟨-, haddress | haddress⟩ | haddress
    · exact ⟨[], by simp [haddress]⟩
    · exact ⟨_, haddress⟩
    · exact ⟨_, haddress⟩
  have hchars : ∀ c ∈ p.text.toList, isBlank c = false := by
    intro c hc
    rw [toList_text] at hc
    rcases List.mem_append.1 hc with hc | hc
    · exact hblank c (by simp [hrest, hsplit, hc])
    · rcases List.mem_cons.1 hc with rfl | hc
      · decide
      · rcases haddress with ⟨hdefault, -⟩ | haddress
        · have hdigits : ∀ c ∈ defaultPort.toList, isBlank c = false :=
            List.all_iff_forall_prop.1 rfl
          exact hdigits c (hdefault ▸ hc)
        · exact hblank c (by simp [haddress, hc])
  have hnot : ¬ isUrl p.text.toList := by
    intro htext
    rw [toList_text] at htext
    have hhosturl := isUrl_append (isUrl_of_append htext hport.slash_notMem) before behind
    have haddressurl := isUrl_append (hsplit ▸ hhosturl) [] rest
    exact hurl (hrest ▸ haddressurl)
  rw [ofAddress_of_not_isUrl hchars hnot]
  exact ofHostPort_text hne htrimmed hport

/-- The printed form of a peer is an address of that peer. -/
theorem ofAddress_text (hblank : ∀ c ∈ address.toList, isBlank c = false)
    (hbare : ∀ u, Url.ofText? address.toList = some u → u.IsHostBare)
    (h : ofAddress address = .ok p) : ofAddress p.text = .ok p := by
  by_cases hurl : isUrl address.toList
  · rw [ofAddress_of_isUrl hblank hurl] at h
    exact ofAddress_text_of_ofUrl hbare h
  · rw [ofAddress_of_not_isUrl hblank hurl] at h
    exact ofAddress_text_of_ofHostPort hblank hurl h

/-! ### Peers told apart -/

theorem IsUsable.colon_notMem (h : p.IsUsable) : ':' ∉ p.port.toList := by
  obtain ⟨n, hn, -⟩ := h.port
  exact Numeral.colon_notMem_of_readInt? hn

/-- Usable peers with the same printed form are the same. -/
theorem text_injective (hp : p.IsUsable) (hq : q.IsUsable) (h : p.text = q.text) : p = q := by
  have hcut : cutLast? ':' p.text.toList = cutLast? ':' q.text.toList := by rw [h]
  rw [toList_text, toList_text, cutLast?_append hp.colon_notMem, cutLast?_append hq.colon_notMem,
    Option.some.injEq, Prod.mk.injEq, String.toList_inj, String.toList_inj] at hcut
  exact congrArg₂ Peer.mk hcut.1 hcut.2

end Peer

namespace Directory

variable {d : Directory}

/-- The texts of a directory tell which peer leads, and which peers there are. -/
structure IsIdentified (d : Directory) : Prop where
  leader : ∃ leader ∈ d.peers, d.leader = some leader ∧ d.leaderText = leader.text
  nodup : (d.peers.map Peer.text).Nodup
  injective : ∀ p ∈ d.peers, ∀ q ∈ d.peers, p.text = q.text → p = q

theorem IsHeld.isIdentified (h : d.IsHeld) : d.IsIdentified := by
  have hinjective (p : Peer) (hp : p ∈ d.peers) (q : Peer) (hq : q ∈ d.peers)
      (heq : p.text = q.text) : p = q :=
    Peer.text_injective (h.isUsable hp) (h.isUsable hq) heq
  obtain ⟨leader, hleader⟩ := h.exists_leader
  refine ⟨⟨leader, mem_peers.2 (.inl hleader), hleader, ?_⟩, ?_, hinjective⟩
  · rw [leaderText, hleader]
    rfl
  · exact (nodup_peers d).map_on fun p hp q hq heq => hinjective p hp q hq heq

end Directory

/-! ### What a client tells -/

namespace Client

variable {c c' : Client} {w w' : Wire}

/-- A client tells of the directory that it has then. -/
theorem eq_of_tell {answer : Directory → Answer} {a : Answer}
    (h : c.tell w answer = (.ok a, c', w')) : a = answer c'.cluster := by
  rw [tell] at h
  split at h
  · cases h
  split at h
  · cases h
    rfl
  split at h
  · cases h
    rfl
  · cases h

end Client

/-- The printed form of a peer is an address of that peer, if it was named by an address without
blanks whose URL, if it is one, has a bare host. The texts of a directory that a client comes by
identify its peers, and at any time a client tells of its leader and its peers in the texts of such
a directory. -/
theorem Peer.printed_identifies :
    (∀ (address : String) (p : Peer), (∀ c ∈ address.toList, isBlank c = false) →
      (∀ u, Url.ofText? address.toList = some u → u.IsHostBare) →
      ofAddress address = .ok p → ofAddress p.text = .ok p) ∧
    (∀ d : Directory, d.IsHeld → d.IsIdentified) ∧
    ∀ (url : String) (o : Options) (n : Network) (c : Client) (w : Wire),
      Client.create url o n = .ok (c, w) →
      ∀ (ss : List Step) (a : Answer) (c' : Client) (w' : Wire),
      ((c.performAll w ss).2.1.step (c.performAll w ss).2.2 .leader = (.ok a, c', w') →
        a = .text c'.cluster.leaderText ∧ c'.cluster.IsIdentified) ∧
      ((c.performAll w ss).2.1.step (c.performAll w ss).2.2 .peers = (.ok a, c', w') →
        a = .texts (c'.cluster.peers.map text) ∧ c'.cluster.IsIdentified) := by
  refine ⟨fun address p => ofAddress_text, fun d => Directory.IsHeld.isIdentified, ?_⟩
  intro url o n c w hcreate ss a c' w'
  have hidentified (s : Step)
      (h : (c.performAll w ss).2.1.step (c.performAll w ss).2.2 s = (.ok a, c', w')) :
      c'.cluster.IsIdentified := by
    have hturn := (c.performAll w ss).2.1.turn_step (c.performAll w ss).2.2 s
    rw [h] at hturn
    exact (hturn.isHeld (Client.isHeld_of_create_performAll hcreate ss)).isIdentified
  constructor
  · intro h
    have hd := hidentified .leader h
    rw [Client.step] at h
    exact ⟨Client.eq_of_tell h, hd⟩
  · intro h
    have hd := hidentified .peers h
    rw [Client.step] at h
    exact ⟨Client.eq_of_tell h, hd⟩

/-- A node that leads, and tells of another one by a URL, twice. -/
def telling : Network :=
  let reply := ("[\x7b\"api_addr\":\"a1:4001\",\"leader\":true\x7d," ++
    "\x7b\"api_addr\":\"http://[FE80::1]:04003\"\x7d]").toUTF8.toList
  [("a1:4001", [("/nodes", [.answer 200 none reply, .answer 200 none reply])])]

theorem Peer.printed_identifies_told :
    ofAddress "http://[FE80::1]:04003" = .ok ⟨"fe80::1", "4003"⟩ ∧
    ofAddress (text ⟨"fe80::1", "4003"⟩) = .ok ⟨"fe80::1", "4003"⟩ ∧
    ∃ c w c' w', Client.create "http://a1:4001" {} telling = .ok (c, w) ∧
      (c.performAll w [.connect]).2.1.step (c.performAll w [.connect]).2.2 .peers =
        (.ok (.texts (c'.cluster.peers.map text)), c', w') ∧
      c'.cluster.peers = [⟨"a1", "4001"⟩, ⟨"fe80::1", "4003"⟩] ∧ c'.cluster.IsIdentified := by
  obtain ⟨hprinted, -, htold⟩ := printed_identifies
  have haddress : ofAddress "http://[FE80::1]:04003" = .ok ⟨"fe80::1", "4003"⟩ := by decide +kernel
  have hblank : ∀ c ∈ "http://[FE80::1]:04003".toList, isBlank c = false :=
    List.all_iff_forall_prop.1 rfl
  have hbare : ∀ u, Url.ofText? "http://[FE80::1]:04003".toList = some u → u.IsHostBare := by
    have hhost : (Url.ofText? "http://[FE80::1]:04003".toList).map Url.host? =
      some (some "fe80::1".toList) := by decide +kernel
    intro u hu host h
    rw [hu, Option.map_some, Option.some.injEq, h, Option.some.injEq] at hhost
    rw [hhost]
    have hchars : ∀ c ∈ "fe80::1".toList, isBlank c = false ∧ isBracket c = false :=
      List.all_iff_forall_prop.1 rfl
    exact ⟨fun c hc => (hchars c hc).1, isTrimmed_of_forall fun c hc => (hchars c hc).2⟩
  refine ⟨haddress, hprinted _ _ hblank hbare haddress, ?_⟩
  have hpeers : (Client.create "http://a1:4001" {} telling).toOption.map (fun made =>
      let connected := (made.1.performAll made.2 [.connect]).2
      let told := connected.1.step connected.2 .peers
      (told.1.isOk, told.2.1.cluster.peers)) =
        some (true, [⟨"a1", "4001"⟩, ⟨"fe80::1", "4003"⟩]) := by
    decide +kernel
  obtain ⟨⟨c, w⟩, hcreate, hpeers⟩ := exists_of_map_toOption hpeers
  rcases hstep : (c.performAll w [.connect]).2.1.step (c.performAll w [.connect]).2.2 .peers with
    ⟨r, c', w'⟩
  simp only [hstep, Prod.mk.injEq] at hpeers
  cases r with
  | error cause => cases hpeers.1
  | ok a =>
    obtain ⟨htexts, hidentified⟩ := (htold _ _ _ c w hcreate [.connect] a c' w').2 hstep
    rw [htexts] at hstep
    exact ⟨c, w, c', w', hcreate, hstep, hpeers.2, hidentified⟩

end SqlCluster
