import SqlCluster.Proofs.Number.Exact
import SqlCluster.Proofs.Number.Integer
import SqlCluster.Proofs.Outcome.Tables
import SqlCluster.Proofs.Outcome.Writable
import SqlCluster.Proofs.Scan.Overflow

/-!
Integers scanned. A cell of a response is read as a kind of integers exactly if it denotes an
integer that fits the width of the kind, and it is read as that integer, whether the kind takes null
or not (`Cell.convert_integer`).
-/

namespace SqlCluster

open Text

/-! ### Values and integers -/

/-- A value and the integer that it denotes. An integer denotes itself, a double its value if that
is an integer, and a text what is written there. -/
inductive Value.Denotes : Value → Int → Prop
  | int (n : Int) : Denotes (.int n) n
  | float {x : Double} {n : Int} : x.value? = some (n : ℚ) → Denotes (.float x) n
  | text {s : String} {n : Int} : Numeral.Denotes s.toList n → Denotes (.text s) n

/-- A value and the integer that it spells out: as an integer, as a double of that value, or in
decimal, perhaps with a sign, with zeros before it and with blanks around it. -/
inductive Value.Spells : Value → Int → Prop
  | int (n : Int) : Spells (.int n) n
  | float {x : Double} {n : Int} : x.value? = some (n : ℚ) → Spells (.float x) n
  | decimal {before sign behind : List Char} {negative : Bool} {zeros : Nat} {n : Int} :
    (∀ c ∈ before, isBlank c) → (∀ c ∈ behind, isBlank c) → Numeral.Sign sign negative →
    Double.signed negative n.natAbs = n →
    zeros + (Nat.toDigits 10 n.natAbs).length ≤ 4300 →
    Spells (.text (String.ofList (before ++
      (sign ++ (List.replicate zeros '0' ++ Nat.toDigits 10 n.natAbs) ++ behind)))) n

/-- A value that stands in a row of a decoded response. -/
def Value.IsDecoded (v : Value) : Prop :=
  ∃ body op expected os t row, Response.decode body op expected = .ok os ∧ .rows t ∈ os ∧
    row ∈ t.rows ∧ v ∈ row

/-- The bits of the integers that a kind holds. -/
def Kind.width? : Kind → Option Nat
  | plain .int | plain .int64 | nullable .int64 => some 64
  | plain .int32 | nullable .int32 => some 32
  | plain .int16 | nullable .int16 => some 16
  | _ => none

/-- An integer as a cell of a kind. -/
def Kind.holding : Kind → Int → Cell
  | nullable target, n => .nullable target (some (.int n))
  | _, n => .plain (.int n)

/-- The integers of a width. -/
def InWidth (w : Nat) (n : Int) : Prop := -2 ^ (w - 1) ≤ n ∧ n < 2 ^ (w - 1)

theorem InWidth.mono {w w' : Nat} {n : Int} (h : InWidth w n) (hw : w ≤ w') : InWidth w' n := by
  have hpow : (2 ^ (w - 1) : Int) ≤ 2 ^ (w' - 1) :=
    pow_le_pow_right₀ (by decide) (Nat.sub_le_sub_right hw 1)
  obtain ⟨hlow, hhigh⟩ := h
  exact ⟨by omega, by omega⟩

theorem Value.Spells.denotes {v : Value} {n : Int} (h : v.Spells n) : v.Denotes n := by
  cases h with
  | int => exact .int n
  | float hx => exact .float hx
  | decimal hbefore hbehind hsign hvalue hlen =>
    have hdenotes := Numeral.Denotes.decimal hbefore hbehind hsign hlen
    rw [hvalue] at hdenotes
    refine .text ?_
    rwa [String.toList_ofList]

theorem Value.IsDecoded.isWritable {v : Value} (h : v.IsDecoded) : v.isWritable := by
  obtain ⟨body, op, expected, os, t, row, hdecode, ht, hrow, hv⟩ := h
  exact Response.isWritable_of_decode hdecode ht row hrow v hv

theorem Kind.holding_inj {kind : Kind} {m n : Int} : kind.holding m = kind.holding n ↔ m = n := by
  cases kind <;> simp [holding]

namespace Cell

variable {v : Value} {kind : Kind} {target : Target} {column : String} {w : Nat} {n : Int}

theorem integer?_eq_some_iff : integer? v = some n ↔ v.Denotes n := by
  cases v with
  | int m =>
    rw [integer?, Option.some.injEq]
    constructor
    · rintro rfl
      exact .int m
    · intro h
      cases h
      rfl
  | float x =>
    rw [integer?, Double.toInt?_eq_some_iff]
    exact ⟨.float, fun h => by cases h; assumption⟩
  | text s =>
    rw [integer?, Numeral.readInt?_trim_eq_some_iff]
    exact ⟨.text, fun h => by cases h; assumption⟩
  | _ => exact iff_of_false nofun nofun

theorem fits_iff : fits w n ↔ InWidth w n := by
  rw [fits, InWidth, Bool.and_eq_true, decide_eq_true_iff, decide_eq_true_iff]
  rfl

theorem readInt_eq_ok_iff :
    readInt v column target = .ok n ↔ v.Denotes n ∧ InWidth target.bits n := by
  rw [readInt, ← integer?_eq_some_iff, ← fits_iff]
  cases integer? v with
  | none => simp [mismatch, refuse]
  | some m =>
    dsimp only
    split
    next hfits =>
      simp only [Except.ok.injEq, Option.some.injEq, iff_self_and]
      rintro rfl
      exact hfits
    next hfits =>
      refine iff_of_false (by simp [refuse]) ?_
      rintro ⟨⟨⟩, h⟩
      exact hfits h

/-- A kind of integers reads what its target reads. -/
theorem convert_eq_map (hnull : isNull v = false) (hw : kind.width? = some w) (column : String) :
    ∃ target : Target, target.bits = w ∧
      convert v column kind = (readInt v column target).map kind.holding := by
  have hcells {target : Target} (f : Reading → Cell) :
      ((readInt v column target).map .int).map f =
        (readInt v column target).map fun n => f (.int n) := by
    cases readInt v column target <;> rfl
  have hplain {k : PlainKind} {target : Target}
      (hread : read v column k.target = (readInt v column target).map .int) :
      convert v column (.plain k) = (readInt v column target).map (Kind.plain k).holding := by
    rw [convert_plain hnull, hread]
    exact hcells _
  have hnullable {target : Target}
      (hread : read v column target = (readInt v column target).map .int) :
      convert v column (.nullable target) =
        (readInt v column target).map (Kind.nullable target).holding := by
    rw [convert_nullable hnull, hread]
    exact hcells _
  unfold Kind.width? at hw
  split at hw <;> cases hw
  · exact ⟨.int64, rfl, hplain rfl⟩
  · exact ⟨.int64, rfl, hplain rfl⟩
  · exact ⟨.int64, rfl, hnullable rfl⟩
  · exact ⟨.int32, rfl, hplain rfl⟩
  · exact ⟨.int32, rfl, hnullable rfl⟩
  · exact ⟨.int16, rfl, hplain rfl⟩
  · exact ⟨.int16, rfl, hnullable rfl⟩

theorem convert_eq_ok_iff {cell : Cell} (hnull : isNull v = false) (hw : kind.width? = some w) :
    convert v column kind = .ok cell ↔ ∃ n, v.Denotes n ∧ InWidth w n ∧ cell = kind.holding n := by
  obtain ⟨target, rfl, hconvert⟩ := convert_eq_map hnull hw column
  simp only [hconvert, map_eq_ok, readInt_eq_ok_iff, and_assoc, @eq_comm Cell cell]

theorem convert_eq_holding_iff (hnull : isNull v = false) (hw : kind.width? = some w) :
    convert v column kind = .ok (kind.holding n) ↔ v.Denotes n ∧ InWidth w n := by
  simp only [convert_eq_ok_iff hnull hw, Kind.holding_inj, exists_eq_right_right']

theorem isNull_of_spells (h : v.Spells n) : isNull v = false := by
  cases h <;> rfl

/-- A cell other than null is read as a kind of integers exactly if it denotes an integer that fits
the width of the kind, as that integer; otherwise it does not match. What spells out an integer that
fits is read as that integer. A cell that is read at a width is read at every greater width too, as
the same integer, and a kind that takes null reads what the others of its width read. -/
theorem convert_integer (hv : v.IsDecoded) (hnull : isNull v = false)
    (hw : kind.width? = some w) (column : String) :
    (∀ cell, convert v column kind = .ok cell ↔
      ∃ n, v.Denotes n ∧ (-2 ^ (w - 1) ≤ n ∧ n < 2 ^ (w - 1)) ∧ cell = kind.holding n) ∧
    (∀ e, convert v column kind = .error e → e.IsMismatch) ∧
    (∀ v' n, v'.Spells n → (-2 ^ (w - 1) ≤ n ∧ n < 2 ^ (w - 1)) →
      convert v' column kind = .ok (kind.holding n)) ∧
    (∀ kind' w', kind'.width? = some w' → w ≤ w' → ∀ n,
      convert v column kind = .ok (kind.holding n) →
        convert v column kind' = .ok (kind'.holding n)) ∧
    ∀ kind', kind'.width? = some w → ∀ n, convert v column kind = .ok (kind.holding n) ↔
      convert v column kind' = .ok (kind'.holding n) := by
  refine ⟨fun cell => convert_eq_ok_iff hnull hw, fun e he => ?_, fun v' n hv' hn => ?_,
    fun kind' w' hw' hle n hn => ?_, fun kind' hw' n => ?_⟩
  · obtain ⟨target, rfl, hconvert⟩ := convert_eq_map hnull hw column
    rw [hconvert, map_eq_error] at he
    exact isMismatch_of_readInt hv.isWritable he
  · exact (convert_eq_holding_iff (isNull_of_spells hv') hw).2 ⟨hv'.denotes, hn⟩
  · obtain ⟨hdenotes, hfits⟩ := (convert_eq_holding_iff hnull hw).1 hn
    exact (convert_eq_holding_iff hnull hw').2 ⟨hdenotes, hfits.mono hle⟩
  · rw [convert_eq_holding_iff hnull hw, convert_eq_holding_iff hnull hw']

/-- An integer in digits of two scripts, with an underscore, leading zeros and blanks around it. -/
def mixedText : String := " \u00a0-0_0\u0663\u0662_768\t"

theorem convert_integer_mixedText :
    Numeral.Denotes mixedText.toList (-32768) ∧ Value.IsDecoded (.text mixedText) ∧
      convert (.text mixedText) "n" (.plain .int16) = .ok (.plain (.int (-32768))) ∧
      convert (.text mixedText) "n" (.nullable .int64) =
        .ok (.nullable .int64 (some (.int (-32768)))) := by
  have hdigits : Numeral.Digits "0_0\u0663\u0662_768".toList [0, 0, 3, 2, 7, 6, 8] :=
    .underscore rfl (.next rfl (.next rfl (.underscore rfl (.next rfl (.next rfl (.last rfl))))))
  have hdenotes : Numeral.Denotes mixedText.toList (-32768) :=
    @Numeral.Denotes.intro [' ', '\u00a0'] _ _ ['\t'] _ _ (List.all_eq_true.1 rfl)
      (List.all_eq_true.1 rfl) .minus hdigits (by decide)
  have hrenderable : ∀ t ∈ [(⟨["n"], ["text"], [[.text mixedText]], .zero false⟩ : Table)],
      (Outcome.rows t).IsRenderable 0 := by
    decide +kernel
  have hdecoded : Value.IsDecoded (.text mixedText) := by
    obtain ⟨text, -, hdecode⟩ := @Response.decode_tables .query _ nofun hrenderable
    exact ⟨_, _, _, _, _, _, hdecode, List.mem_singleton.2 rfl, List.mem_singleton.2 rfl,
      List.mem_singleton.2 rfl⟩
  have hread := @convert_integer _ (.plain .int16) _ hdecoded rfl rfl "n"
  have hsmall := (hread.1 _).2 ⟨-32768, .text hdenotes, by decide, rfl⟩
  exact ⟨hdenotes, hdecoded, hsmall, hread.2.2.2.1 (.nullable .int64) 64 rfl (by decide) _ hsmall⟩

end Cell

end SqlCluster
