import SqlCluster.Proofs.Dict
import SqlCluster.Proofs.Json.Number
import SqlCluster.Proofs.Json.Text
import SqlCluster.Proofs.Result

/-!
Documents read back. The text that a value is written as is read as that value
(`readWhole_of_write`), if no key comes twice in one of its objects: a second one would change the
value under the first.
-/

namespace SqlCluster

namespace Value

mutual

/-- Whether no key comes twice in an object within a value. -/
def HasDistinctKeys : Value → Prop
  | list items => HaveDistinctKeys items
  | dict entries => (entries.map Prod.fst).Nodup ∧ EntriesHaveDistinctKeys entries
  | _ => True

/-- Whether no key comes twice in an object within the values of a list. -/
def HaveDistinctKeys : List Value → Prop
  | [] => True
  | v :: vs => v.HasDistinctKeys ∧ HaveDistinctKeys vs

/-- Whether no key comes twice in an object within the values of entries. -/
def EntriesHaveDistinctKeys : List (String × Value) → Prop
  | [] => True
  | (_, v) :: es => v.HasDistinctKeys ∧ EntriesHaveDistinctKeys es

end

end Value

namespace Json

variable {s t rest : List Char} {v : Value} {fuel : ℕ} {p : Value × List Char}

/-! ### Words and numbers -/

theorem exists_digit_of_readUnsigned {start : List Char} {negative : Bool}
    (h : readUnsigned start negative s = .ok p) : ∃ c t, s = c :: t ∧ c.isDigit := by
  cases s with
  | nil => cases h
  | cons c t =>
    refine ⟨c, t, rfl, ?_⟩
    by_contra hdigit
    have hzero : c ≠ '0' := by
      rintro rfl
      exact hdigit rfl
    have hwhole : wholeDigits (c :: t) = [] := by
      rw [wholeDigits]
      · simp [hdigit]
      · rintro r ⟨⟩
        exact hzero rfl
    rw [readUnsigned, hwhole] at h
    cases h

theorem exists_digit_of_readNumber (h : readNumber s = .ok p) :
    ∃ c t, c.isDigit ∧ (s = c :: t ∨ s = '-' :: c :: t) := by
  unfold readNumber at h
  split at h
  · obtain ⟨c, t, rfl, hdigit⟩ := exists_digit_of_readUnsigned h
    exact ⟨c, t, hdigit, .inr rfl⟩
  · obtain ⟨c, t, rfl, hdigit⟩ := exists_digit_of_readUnsigned h
    exact ⟨c, t, hdigit, .inl rfl⟩

/-- A number begins unlike all words and unlike what is in quotes or brackets. -/
theorem readValue_of_readNumber (h : readNumber s = .ok p) (hfuel : 0 < fuel) :
    readValue fuel s = .ok p := by
  obtain ⟨fuel, rfl⟩ := Nat.exists_eq_add_one_of_ne_zero hfuel.ne'
  obtain ⟨c, t, hdigit, hs⟩ := exists_digit_of_readNumber h
  have hc : ∀ d, d.isDigit = false → d ≠ c := by
    rintro d hd rfl
    rw [hd] at hdigit
    cases hdigit
  have hatom : readAtom s = .ok p := by
    rw [readAtom, List.find?_eq_none.2]
    · exact h
    · rcases hs with rfl | rfl
      · simp [words, hc 'n' rfl, hc 't' rfl, hc 'f' rfl, hc 'N' rfl, hc 'I' rfl,
          hc '-' rfl]
      · simp [words, hc 'I' rfl]
  rw [← hatom, readValue]
  dsimp only
  rcases hs with rfl | rfl
  · split
    next heq => exact absurd (List.cons.inj heq).1.symm (hc '"' rfl)
    next heq => exact absurd (List.cons.inj heq).1.symm (hc '[' rfl)
    next heq => exact absurd (List.cons.inj heq).1.symm (hc '{' rfl)
    next => rfl
  · rfl

/-! ### Values -/

/-- Whether a text is read as a value, whatever may stand behind it. -/
def Reads (t : List Char) (v : Value) : Prop :=
  ∀ fuel rest, t.length ≤ fuel → IsBoundary rest → readValue fuel (t ++ rest) = .ok (v, rest)

theorem reads_null : Reads "null".toList .null := by
  rintro (_ | fuel) rest hfuel -
  · cases hfuel
  · rfl

theorem reads_true : Reads "true".toList (.bool true) := by
  rintro (_ | fuel) rest hfuel -
  · cases hfuel
  · rfl

theorem reads_false : Reads "false".toList (.bool false) := by
  rintro (_ | fuel) rest hfuel -
  · cases hfuel
  · rfl

theorem reads_of_readNumber
    (h : ∀ rest, IsBoundary rest → readNumber (t ++ rest) = .ok (v, rest)) : Reads t v := by
  intro fuel rest hfuel hrest
  refine readValue_of_readNumber (h rest hrest) (lt_of_lt_of_le ?_ hfuel)
  obtain ⟨c, s, -, hs⟩ := exists_digit_of_readNumber (h [] nofun)
  rw [List.append_nil] at hs
  rcases hs with rfl | rfl <;> exact Nat.succ_pos _

theorem reads_text (k : String) : Reads (writeText k.toList) (.text k) := by
  rintro (_ | fuel) rest hfuel -
  · cases hfuel
  · have hread := readText_writeText (writeText k.toList ++ rest).length k.toList rest
    simp only [writeText, List.cons_append, List.append_assoc, List.nil_append] at hread ⊢
    rw [readValue]
    simp only [hread, bind, Except.bind, String.ofList_toList]

theorem IsBoundary.cons {c : Char} (h : c = ',' ∨ c = ']' ∨ c = '}') : IsBoundary (c :: rest) := by
  rintro d ⟨⟩
  exact h

/-- A text that is read as a value begins with no space and no closing bracket. -/
theorem skipSpace_of_readValue (h : readValue fuel s = .ok p) :
    skipSpace s = s ∧ s.head? ≠ some ']' := by
  cases fuel with
  | zero => cases h
  | succ fuel =>
    cases s with
    | nil => exact ⟨rfl, nofun⟩
    | cons c s =>
      have hne : c ≠ ' ' ∧ c ≠ '\t' ∧ c ≠ '\n' ∧ c ≠ '\r' ∧ c ≠ ']' := by
        refine ⟨?_, ?_, ?_, ?_, ?_⟩ <;> rintro rfl <;> cases h
      obtain ⟨hspace, htab, hline, hreturn, hbracket⟩ := hne
      refine ⟨?_, by simpa using hbracket⟩
      simp [skipSpace, isSpace, hspace, htab, hline, hreturn]

/-! ### Lists -/

theorem skipSpace_of_readItems {q : List Value × List Char} (h : readItems fuel s = .ok q) :
    skipSpace s = s ∧ s.head? ≠ some ']' := by
  cases fuel with
  | zero => cases h
  | succ fuel =>
    rw [readItems, bind_eq_ok] at h
    obtain ⟨p, hp, -⟩ := h
    exact skipSpace_of_readValue hp

/-- Whether a text is read as the items of a list, up to its closing bracket. -/
def ReadsItems (t : List Char) (vs : List Value) : Prop :=
  ∀ fuel rest, t.length ≤ fuel → readItems fuel (t ++ rest) = .ok (vs, rest)

theorem readsItems_last (hv : Reads t v) : ReadsItems (t ++ [']']) [v] := by
  rintro (_ | fuel) rest hfuel
  · simp at hfuel
  · have hread := hv fuel (']' :: rest) (by simpa using hfuel) (.cons (by simp))
    rw [List.append_assoc, List.singleton_append, readItems]
    simp only [hread, bind, Except.bind]
    rfl

theorem readsItems_cons {ts : List Char} {vs : List Value} (hv : Reads t v)
    (hvs : ReadsItems ts vs) : ReadsItems (t ++ ',' :: ' ' :: ts) (v :: vs) := by
  rintro (_ | fuel) rest hfuel
  · simp at hfuel
  · simp only [List.length_append, List.length_cons] at hfuel
    have hread := hv fuel (',' :: ' ' :: (ts ++ rest)) (by omega) (.cons (by simp))
    have hreads := hvs fuel rest (by omega)
    have hspace : skipSpace (' ' :: (ts ++ rest)) = ts ++ rest := (skipSpace_of_readItems hreads).1
    have hcomma : skipSpace (',' :: ' ' :: (ts ++ rest)) = ',' :: ' ' :: (ts ++ rest) := rfl
    rw [List.append_assoc, List.cons_append, List.cons_append, readItems]
    simp only [hread, hcomma, hspace, hreads, bind, Except.bind]

theorem reads_nil : Reads ['[', ']'] (.list []) := by
  rintro (_ | fuel) rest hfuel -
  · cases hfuel
  · rfl

theorem reads_list {vs : List Value} (h : ReadsItems t vs) : Reads ('[' :: t) (.list vs) := by
  rintro (_ | fuel) rest hfuel -
  · simp at hfuel
  · have hread := h fuel rest (by simpa using hfuel)
    obtain ⟨hspace, hbracket⟩ := skipSpace_of_readItems hread
    rw [List.cons_append, readValue]
    simp only [hspace]
    split
    next heq => exact absurd (by rw [heq]; rfl) hbracket
    next => simp only [hread, bind, Except.bind]

/-! ### Objects -/

/-- Whether a text is read as the entries of an object, up to its closing brace, behind others. -/
def ReadsEntries (t : List Char) (es : List (String × Value)) : Prop :=
  ∀ fuel before rest, t.length ≤ fuel → ((before ++ es).map Prod.fst).Nodup →
    readEntries fuel before (t ++ rest) = .ok (before ++ es, rest)

theorem skipSpace_of_isBoundary (h : IsBoundary rest) : skipSpace rest = rest := by
  cases rest with
  | nil => rfl
  | cons c rest => rcases h c rfl with rfl | rfl | rfl <;> rfl

/-- How the reader goes on behind an entry of an object. -/
def pastEntry (fuel : Nat) (entries : Dict Value) : Reader (Dict Value)
  | '}' :: r => .ok (entries, r)
  | ',' :: r => readEntries fuel entries (skipSpace r)
  | r => fail .comma r

/-- One step through the entries of an object. -/
theorem readEntries_key {k : String} {before : Dict Value} (hv : Reads t v)
    (hnew : k ∉ before.map Prod.fst) (hfuel : t.length ≤ fuel) (hrest : IsBoundary rest) :
    readEntries (fuel + 1) before (writeText k.toList ++ ':' :: ' ' :: (t ++ rest)) =
      pastEntry fuel (before ++ [(k, v)]) rest := by
  have hread := hv fuel rest hfuel hrest
  have hkey := readText_writeText (writeText k.toList ++ ':' :: ' ' :: (t ++ rest)).length
    k.toList (':' :: ' ' :: (t ++ rest))
  have hcolon : skipSpace (':' :: ' ' :: (t ++ rest)) = ':' :: ' ' :: (t ++ rest) := rfl
  have hspace : skipSpace (' ' :: (t ++ rest)) = t ++ rest := (skipSpace_of_readValue hread).1
  simp only [writeText, List.cons_append, List.append_assoc, List.nil_append] at hkey ⊢
  rw [readEntries]
  simp only [hkey, hcolon, hspace, hread, skipSpace_of_isBoundary hrest, String.ofList_toList,
    Dict.put_eq_append hnew, bind, Except.bind]
  cases rest with
  | nil => rfl
  | cons c rest => rcases hrest c rfl with rfl | rfl | rfl <;> rfl

theorem exists_quote_of_readEntries {before : Dict Value} {q : Dict Value × List Char}
    (h : readEntries fuel before s = .ok q) : ∃ r, s = '"' :: r := by
  cases fuel with
  | zero => cases h
  | succ fuel =>
    unfold readEntries at h
    split at h
    next r => exact ⟨r, rfl⟩
    next => cases h

theorem notMem_of_nodup {before es : Dict Value} {k : String}
    (h : ((before ++ (k, v) :: es).map Prod.fst).Nodup) : k ∉ before.map Prod.fst := by
  rw [List.map_append, List.map_cons] at h
  exact fun hk => List.disjoint_of_nodup_append h hk List.mem_cons_self

theorem readsEntries_last {k : String} (hv : Reads t v) :
    ReadsEntries (writeText k.toList ++ ':' :: ' ' :: (t ++ ['}'])) [(k, v)] := by
  rintro (_ | fuel) before rest hfuel hkeys
  · simp at hfuel
  · simp only [List.length_append, List.length_cons] at hfuel
    have hboundary : IsBoundary ('}' :: rest) := .cons (by simp)
    have hread :=
      readEntries_key hv (notMem_of_nodup hkeys) (show t.length ≤ fuel by omega) hboundary
    simpa [pastEntry] using hread

theorem readsEntries_cons {k : String} {ts : List Char} {es : List (String × Value)}
    (hv : Reads t v) (hes : ReadsEntries ts es) :
    ReadsEntries (writeText k.toList ++ ':' :: ' ' :: (t ++ ',' :: ' ' :: ts)) ((k, v) :: es) := by
  rintro (_ | fuel) before rest hfuel hkeys
  · simp at hfuel
  · simp only [List.length_append, List.length_cons] at hfuel
    have hboundary : IsBoundary (',' :: ' ' :: (ts ++ rest)) := .cons (by simp)
    have hread :=
      readEntries_key hv (notMem_of_nodup hkeys) (show t.length ≤ fuel by omega) hboundary
    have hreads := hes fuel (before ++ [(k, v)]) rest (by omega) (by simpa using hkeys)
    obtain ⟨r, hr⟩ := exists_quote_of_readEntries hreads
    have hspace : skipSpace (' ' :: (ts ++ rest)) = ts ++ rest := by
      rw [hr]
      rfl
    simp only [pastEntry, hspace, hreads] at hread
    simpa using hread

theorem reads_empty : Reads ['{', '}'] (.dict []) := by
  rintro (_ | fuel) rest hfuel -
  · cases hfuel
  · rfl

theorem reads_dict {es : List (String × Value)} (h : ReadsEntries t es)
    (hkeys : (es.map Prod.fst).Nodup) : Reads ('{' :: t) (.dict es) := by
  rintro (_ | fuel) rest hfuel -
  · simp at hfuel
  · have hread := h fuel [] rest (by simpa using hfuel) hkeys
    obtain ⟨r, hr⟩ := exists_quote_of_readEntries hread
    rw [List.cons_append, readValue]
    have hspace : skipSpace (t ++ rest) = t ++ rest := by
      rw [hr]
      rfl
    simp only [hspace]
    split
    next heq =>
      rw [hr] at heq
      cases heq
    next => simp only [hread, bind, Except.bind, List.nil_append]

/-! ### Documents -/

section

variable {vs : List Value} {es : List (String × Value)} {k : String}

theorem exists_of_write_list (h : write (.list (v :: vs)) = .ok t) :
    ∃ tv ts, write v = .ok tv ∧ writeItems vs = .ok ts ∧ t = '[' :: (tv ++ ts) := by
  rw [write] at h
  simp only [bind_eq_ok] at h
  obtain ⟨tv, hv, ts, hvs, h⟩ := h
  cases h
  exact ⟨tv, ts, hv, hvs, rfl⟩

theorem exists_of_writeItems_cons (h : writeItems (v :: vs) = .ok t) :
    ∃ tv ts, write v = .ok tv ∧ writeItems vs = .ok ts ∧ t = ',' :: ' ' :: (tv ++ ts) := by
  rw [writeItems] at h
  simp only [bind_eq_ok] at h
  obtain ⟨tv, hv, ts, hvs, h⟩ := h
  cases h
  exact ⟨tv, ts, hv, hvs, rfl⟩

theorem exists_of_write_dict (h : write (.dict ((k, v) :: es)) = .ok t) :
    ∃ tv ts, write v = .ok tv ∧ writeEntries es = .ok ts ∧
      t = '{' :: (writeText k.toList ++ ':' :: ' ' :: (tv ++ ts)) := by
  rw [write] at h
  simp only [bind_eq_ok] at h
  obtain ⟨tv, hv, ts, hes, h⟩ := h
  cases h
  exact ⟨tv, ts, hv, hes, by simp⟩

theorem exists_of_writeEntries_cons (h : writeEntries ((k, v) :: es) = .ok t) :
    ∃ tv ts, write v = .ok tv ∧ writeEntries es = .ok ts ∧
      t = ',' :: ' ' :: (writeText k.toList ++ ':' :: ' ' :: (tv ++ ts)) := by
  rw [writeEntries] at h
  simp only [bind_eq_ok] at h
  obtain ⟨tv, hv, ts, hes, h⟩ := h
  cases h
  exact ⟨tv, ts, hv, hes, by simp⟩

end

theorem reads_int {n : ℤ} (h : write (.int n) = .ok t) : Reads t (.int n) := by
  rw [write] at h
  split at h
  next hn =>
    cases h
    exact reads_of_readNumber fun _ => readNumber_writeInt hn
  next => cases h

theorem reads_float {x : Double} (h : write (.float x) = .ok t) : Reads t (.float x) := by
  rw [write] at h
  split at h
  next hx =>
    cases h
    exact reads_of_readNumber fun _ => readNumber_text hx
  next => cases h

mutual

theorem reads_of_write :
    ∀ (v : Value) (t : List Char), write v = .ok t → v.HasDistinctKeys → Reads t v
  | .null => by
    intro t h _
    cases h
    exact reads_null
  | .bool true => by
    intro t h _
    cases h
    exact reads_true
  | .bool false => by
    intro t h _
    cases h
    exact reads_false
  | .int n => fun t h _ => reads_int h
  | .float x => fun t h _ => reads_float h
  | .text k => by
    intro t h _
    cases h
    exact reads_text k
  | .list [] => by
    intro t h _
    cases h
    exact reads_nil
  | .list (v :: vs) => by
    intro t h hkeys
    obtain ⟨tv, ts, hv, hvs, rfl⟩ := exists_of_write_list h
    exact reads_list (readsItems_of_write vs v tv ts (reads_of_write v tv hv hkeys.1) hvs hkeys.2)
  | .dict [] => by
    intro t h _
    cases h
    exact reads_empty
  | .dict ((k, v) :: es) => by
    intro t h hkeys
    obtain ⟨tv, ts, hv, hes, rfl⟩ := exists_of_write_dict h
    have hentries :=
      readsEntries_of_write es k v tv ts (reads_of_write v tv hv hkeys.2.1) hes hkeys.2.2
    exact reads_dict hentries hkeys.1
  | .bytes _ | .date _ | .datetime _ | .object _ | .statement .. => nofun

theorem readsItems_of_write : ∀ (vs : List Value) (v : Value) (t ts : List Char), Reads t v →
    writeItems vs = .ok ts → Value.HaveDistinctKeys vs → ReadsItems (t ++ ts) (v :: vs)
  | [] => by
    intro v t ts hv h _
    cases h
    exact readsItems_last hv
  | w :: ws => by
    intro v t ts hv h hkeys
    obtain ⟨tw, ts', hw, hws, rfl⟩ := exists_of_writeItems_cons h
    exact readsItems_cons hv
      (readsItems_of_write ws w tw ts' (reads_of_write w tw hw hkeys.1) hws hkeys.2)

theorem readsEntries_of_write : ∀ (es : List (String × Value)) (k : String) (v : Value)
    (t ts : List Char), Reads t v → writeEntries es = .ok ts → Value.EntriesHaveDistinctKeys es →
    ReadsEntries (writeText k.toList ++ ':' :: ' ' :: (t ++ ts)) ((k, v) :: es)
  | [] => by
    intro k v t ts hv h _
    cases h
    exact readsEntries_last hv
  | (k', w) :: es => by
    intro k v t ts hv h hkeys
    obtain ⟨tw, ts', hw, hes, rfl⟩ := exists_of_writeEntries_cons h
    exact readsEntries_cons hv
      (readsEntries_of_write es k' w tw ts' (reads_of_write w tw hw hkeys.1) hes hkeys.2)

end

theorem haveDistinctKeys_iff {vs : List Value} :
    Value.HaveDistinctKeys vs ↔ ∀ v ∈ vs, v.HasDistinctKeys := by
  induction vs with
  | nil => simp [Value.HaveDistinctKeys]
  | cons v vs ih => simp [Value.HaveDistinctKeys, ih]

/-! ### Lists and objects that are written -/

/-- The text of a list whose items have these texts. -/
def listText : List (List Char) → List Char
  | [] => ['[', ']']
  | t :: ts => '[' :: t ++ (ts.flatMap (',' :: ' ' :: ·) ++ [']'])

/-- A list is written item by item. -/
theorem write_list (vs : List Value) : write (.list vs) = (vs.mapM write).map listText := by
  have hitems (vs : List Value) : writeItems vs =
      (vs.mapM write).map fun ts => ts.flatMap (',' :: ' ' :: ·) ++ [']'] := by
    induction vs with
    | nil => rfl
    | cons v vs ih =>
      rw [writeItems, ih, List.mapM_cons]
      cases write v with
      | error cause => rfl
      | ok t =>
        cases vs.mapM write with
        | error cause => rfl
        | ok ts => simp [bind, Except.bind, Except.map, pure, Except.pure]
  cases vs with
  | nil => rfl
  | cons v vs =>
    rw [write, hitems, List.mapM_cons]
    cases write v with
    | error cause => rfl
    | ok t => cases vs.mapM write <;> rfl

theorem exists_write_of_mem {vs : List Value} {v : Value} {t : List Char}
    (h : write (.list vs) = .ok t) (hv : v ∈ vs) : ∃ t, write v = .ok t := by
  rw [write_list, map_eq_ok] at h
  obtain ⟨ts, hts, -⟩ := h
  exact exists_of_mapM_eq_ok hts hv

theorem exists_mem_of_write_list {vs : List Value} {cause : WriteError}
    (h : write (.list vs) = .error cause) : ∃ v ∈ vs, write v = .error cause := by
  rw [write_list, map_eq_error, mapM_eq_error] at h
  obtain ⟨before, v, behind, rfl, -, hv⟩ := h
  exact ⟨v, by simp, hv⟩

theorem exists_write_list {vs : List Value} (h : ∀ v ∈ vs, ∃ t, write v = .ok t) :
    ∃ t, write (.list vs) = .ok t := by
  cases hlist : write (.list vs) with
  | ok t => exact ⟨t, rfl⟩
  | error cause =>
    obtain ⟨v, hv, hcause⟩ := exists_mem_of_write_list hlist
    obtain ⟨t, ht⟩ := h v hv
    rw [hcause] at ht
    cases ht

theorem exists_write_dict {es : List (String × Value)} (h : ∀ e ∈ es, ∃ t, write e.2 = .ok t) :
    ∃ t, write (.dict es) = .ok t := by
  have hentries : ∀ fs : List (String × Value), (∀ f ∈ fs, ∃ t, write f.2 = .ok t) →
      ∃ t, writeEntries fs = .ok t := by
    intro fs hfs
    induction fs with
    | nil => exact ⟨_, rfl⟩
    | cons f fs ih =>
      obtain ⟨⟨t, ht⟩, hfs⟩ := List.forall_mem_cons.1 hfs
      obtain ⟨ts, hts⟩ := ih hfs
      exact ⟨_, by rw [writeEntries, ht, hts]; rfl⟩
  cases es with
  | nil => exact ⟨_, rfl⟩
  | cons e es =>
    obtain ⟨⟨t, ht⟩, hes⟩ := List.forall_mem_cons.1 h
    obtain ⟨ts, hts⟩ := hentries es hes
    exact ⟨_, by rw [write, ht, hts]; rfl⟩

/-- The text that a value is written as is read as that value. -/
theorem readWhole_of_write (h : write v = .ok t) (hkeys : v.HasDistinctKeys) :
    readWhole t = .ok v := by
  have hread := reads_of_write v t h hkeys (2 * t.length + 2) [] (by omega) nofun
  rw [List.append_nil] at hread
  rw [readWhole, (skipSpace_of_readValue hread).1]
  simp only [hread, bind, Except.bind]
  rfl

end Json

end SqlCluster
