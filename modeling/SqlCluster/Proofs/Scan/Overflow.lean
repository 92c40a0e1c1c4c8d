import SqlCluster.Scan.Cell
import SqlCluster.Proofs.Json.Writable
import SqlCluster.Proofs.Number.Rounding
import SqlCluster.Proofs.Time.Calendar

/-!
Values that no error is meant for. A value that does not match its kind is refused as a mismatch,
and so is a number that is out of the range of an integer or of the calendar. Two values are not
refused like that: an integer beyond all doubles where a double is asked for, and the text of a time
that its offset takes out of the calendar (`Cell.convert_errors_iff`). The integers of a document
are short enough to be shown in the messages.
-/

namespace SqlCluster

/-- A cause that tells that a value does not match its kind. -/
def ScanError.IsMismatch : ScanError → Prop
  | beyondDoubles | beyondCalendar | unwritableInteger => False
  | _ => True

/-- The text of a time that the calendar does not hold: it is read in the extended layout, and its
offset from UTC takes it before the year 1 or behind the year 9999. -/
def Time.LeavesCalendar (s : List Char) : Prop :=
  readPlain? s = none ∧ ∃ date clock offset,
    readExtended? (withSixDigits (withoutZulu s)) = some (date, clock, offset) ∧
      ¬(0 ≤ (date.toDays * dayMicros + clock.toMicros - offset : Int) ∧
        (date.toDays * dayMicros + clock.toMicros - offset : Int) < calendarDays * dayMicros)

/-- A value that a target has no room for, though it is of the right sort: an integer beyond all
doubles, or a time that leaves the calendar. -/
def Value.Exceeds : Value → Target → Prop
  | int n, .float => Double.overflowBound ≤ n.natAbs
  | text s, .time => Time.LeavesCalendar s.toList
  | _, _ => False

/-- A value that a kind has no room for. -/
def Kind.IsExceededBy (v : Value) : Kind → Prop
  | plain kind => v.Exceeds kind.target
  | nullable target => v.Exceeds target
  | raw | foreign _ | word _ => False

/-! ### Integers that are read -/

theorem Numeral.isWritable_of_readInt? {s : List Char} {n : Int} (h : readInt? s = some n) :
    isWritable n := by
  obtain ⟨digits, -, -, hdigits, hlen, rfl⟩ := readInt?_eq_some.1 h
  exact isWritable_digitsValue _ hdigits hlen

theorem scaleDown_fst_lt {m k : Nat} {q : Int} (hm : m < 2 ^ 53) (hq : q ≤ k) :
    (scaleDown 2 m 1 (-q)).1 < 2 ^ 53 * 2 ^ k := by
  rw [scaleDown]
  split
  · exact Nat.lt_of_lt_of_le hm (Nat.le_mul_of_pos_right _ (Nat.two_pow_pos k))
  · have hpow : Nat.pow 2 (- -q).toNat ≤ 2 ^ k := Nat.pow_le_pow_right (by decide) (by omega)
    exact Nat.mul_lt_mul_of_lt_of_le hm hpow (Nat.two_pow_pos k)

theorem two_pow_mul_two_pow_le {a b k : Nat} (h : a + b ≤ k) : 2 ^ a * 2 ^ b ≤ 10 ^ k :=
  calc 2 ^ a * 2 ^ b = 2 ^ (a + b) := (Nat.pow_add ..).symm
    _ ≤ 2 ^ k := Nat.pow_le_pow_right (by decide) h
    _ ≤ 10 ^ k := Nat.pow_le_pow_left (by decide) k

/-- An integral double has far fewer digits than may be written. -/
theorem Double.isWritable_of_toInt? {x : Double} {n : Int} (h : x.toInt? = some n) :
    Numeral.isWritable n := by
  cases x with
  | nan => cases h
  | infinity => cases h
  | finite negative m q hcanonical =>
    have hnum := scaleDown_fst_lt hcanonical.1 hcanonical.2.2.2
    simp only [toInt?, Option.ite_none_right_eq_some, Option.some.injEq] at h
    obtain ⟨-, rfl⟩ := h
    rw [Numeral.isWritable, natAbs_signed, decide_eq_true_iff]
    refine Nat.lt_of_le_of_lt (Nat.div_le_self _ _) (Nat.lt_of_lt_of_le hnum ?_)
    have hlimit : 53 + 971 ≤ Numeral.digitLimit := by decide
    -- the power is too large to be evaluated
    generalize Numeral.digitLimit = k at hlimit ⊢
    exact two_pow_mul_two_pow_le hlimit

namespace Time

theorem Instant.of?_eq_none_iff {micros : Int} :
    of? micros = none ↔ ¬(0 ≤ micros ∧ micros < calendarDays * dayMicros) := by
  rw [of?]
  split
  next h => simp [h]
  next h => simp [h]

theorem Instant.ofLocal?_eq_none_iff {date : Date} {clock : Clock} {offset : Int} :
    ofLocal? date clock offset = none ↔
      ¬(0 ≤ (date.toDays * dayMicros + clock.toMicros - offset : Int) ∧
        (date.toDays * dayMicros + clock.toMicros - offset : Int) < calendarDays * dayMicros) :=
  of?_eq_none_iff

theorem readInstant_eq_outOfCalendar_iff {s : List Char} :
    readInstant s = .error .outOfCalendar ↔ LeavesCalendar s := by
  rw [LeavesCalendar]
  simp only [← Instant.ofLocal?_eq_none_iff]
  fun_cases readInstant s
  next i hplain => simp [hplain]
  next hplain hextended => simp [hplain, hextended]
  next hplain date clock offset hextended i hi => simp [hplain, hextended, hi]
  next hplain date clock offset hextended hi => simp [hplain, hextended, hi]

end Time

namespace Cell

variable {v : Value} {column : String} {target : Target} {e : ScanError}

theorem isMismatch_of_refuse {α : Type} {cause : ScanError} (hv : v.isWritable)
    (h : (refuse v cause : Except ScanError α) = .error e) (hcause : cause.IsMismatch) :
    e.IsMismatch := by
  rw [refuse, if_pos hv] at h
  cases h
  exact hcause

theorem isMismatch_of_mismatch {α : Type} (hv : v.isWritable)
    (h : (mismatch v column target : Except ScanError α) = .error e) : e.IsMismatch :=
  isMismatch_of_refuse hv h trivial

theorem isWritable_of_integer? {n : Int} (hv : v.isWritable) (h : integer? v = some n) :
    (Value.int n).isWritable := by
  cases v with
  | int m =>
    cases h
    exact hv
  | float x => exact Double.isWritable_of_toInt? h
  | text s => exact Numeral.isWritable_of_readInt? h
  | _ => cases h

theorem isMismatch_of_readInt (hv : v.isWritable) (h : readInt v column target = .error e) :
    e.IsMismatch := by
  rw [readInt] at h
  split at h
  · exact isMismatch_of_mismatch hv h
  next n hn =>
    split at h
    · cases h
    · exact isMismatch_of_refuse (isWritable_of_integer? hv hn) h trivial

theorem isMismatch_of_readText (hv : v.isWritable) (h : readText v column = .error e) :
    e.IsMismatch := by
  unfold readText at h
  split at h
  · cases h
  · exact isMismatch_of_mismatch hv h

theorem isMismatch_of_readBool (hv : v.isWritable) (h : readBool v column = .error e) :
    e.IsMismatch := by
  unfold readBool at h
  split at h
  · cases h
  · exact isMismatch_of_mismatch hv h

theorem isMismatch_of_readBytes (hv : v.isWritable) (h : readBytes v column = .error e) :
    e.IsMismatch := by
  unfold readBytes at h
  split at h
  · cases h
  · cases h
  · exact isMismatch_of_mismatch hv h

theorem readFloat_errors_iff (hv : v.isWritable) :
    (∀ e, readFloat v column = .error e → e.IsMismatch) ↔ ¬v.Exceeds .float := by
  cases v with
  | int n =>
    rw [Value.Exceeds, ← Double.ofInt?_eq_none_iff, readFloat]
    cases Double.ofInt? n with
    | none => simp [ScanError.IsMismatch]
    | some x => simp
  | float x => simp [readFloat, Value.Exceeds]
  | text s =>
    refine iff_of_true (fun e h => ?_) id
    rw [readFloat] at h
    split at h
    · cases h
    · exact isMismatch_of_mismatch hv h
  | _ => exact iff_of_true (fun e h => isMismatch_of_mismatch hv h) id

theorem readTime_errors_iff (hv : v.isWritable) :
    (∀ e, readTime v column = .error e → e.IsMismatch) ↔ ¬v.Exceeds .time := by
  cases v with
  | text s =>
    rw [Value.Exceeds, ← Time.readInstant_eq_outOfCalendar_iff, readTime]
    match Time.readInstant s.toList with
    | .ok i => simp
    | .error .invalid => simp [ScanError.IsMismatch]
    | .error .outOfCalendar => simp [ScanError.IsMismatch]
  | int n =>
    refine iff_of_true (fun e h => ?_) id
    rw [readTime] at h
    split at h
    · cases h
    · exact isMismatch_of_refuse hv h trivial
  | float x =>
    refine iff_of_true (fun e h => ?_) id
    rw [readTime] at h
    split at h
    · cases h
    · exact isMismatch_of_refuse hv h trivial
  | _ => exact iff_of_true (fun e h => isMismatch_of_mismatch hv h) id

theorem read_errors_iff (hv : v.isWritable) :
    (∀ e, read v column target = .error e → e.IsMismatch) ↔ ¬v.Exceeds target := by
  have hroom (h : target ≠ .float ∧ target ≠ .time) : ¬v.Exceeds target := by
    cases target <;> cases v <;> simp_all [Value.Exceeds]
  cases target with
  | int64 | int32 | int16 =>
    refine iff_of_true (fun e h => ?_) (hroom (by decide))
    exact isMismatch_of_readInt hv (map_eq_error.1 h)
  | float =>
    simp only [read, map_eq_error]
    exact readFloat_errors_iff hv
  | text =>
    refine iff_of_true (fun e h => ?_) (hroom (by decide))
    exact isMismatch_of_readText hv (map_eq_error.1 h)
  | bool =>
    refine iff_of_true (fun e h => ?_) (hroom (by decide))
    exact isMismatch_of_readBool hv (map_eq_error.1 h)
  | bytes =>
    refine iff_of_true (fun e h => ?_) (hroom (by decide))
    exact isMismatch_of_readBytes hv (map_eq_error.1 h)
  | time =>
    simp only [read, map_eq_error]
    exact readTime_errors_iff hv

theorem convert_plain (hnull : isNull v = false) (kind : PlainKind) :
    convert v column (.plain kind) = (read v column kind.target).map .plain := by
  rw [convert, hnull, if_neg Bool.false_ne_true]

theorem convert_nullable (hnull : isNull v = false) (target : Target) :
    convert v column (.nullable target) =
      (read v column target).map fun r => .nullable target (some r) := by
  rw [convert, hnull, if_neg Bool.false_ne_true]

theorem not_exceeds_of_isNull (h : isNull v) : ¬v.Exceeds target := by
  cases v <;> cases h
  cases target <;> exact id

/-- Whatever the kind, a value is converted or does not match it, unless it exceeds it. -/
theorem convert_errors_iff (hv : v.isWritable) (column : String) (kind : Kind) :
    (∀ e, convert v column kind = .error e → e.IsMismatch) ↔ ¬kind.IsExceededBy v := by
  cases kind with
  | raw => exact iff_of_true nofun id
  | foreign name | word s =>
    refine iff_of_true (fun e h => ?_) id
    cases h
    trivial
  | plain kind =>
    rw [convert, Kind.IsExceededBy]
    split
    next hnull =>
      refine iff_of_true (fun e h => ?_) (not_exceeds_of_isNull hnull)
      cases h
      trivial
    next =>
      simp only [map_eq_error]
      exact read_errors_iff hv
  | nullable target =>
    rw [convert, Kind.IsExceededBy]
    split
    next hnull => exact iff_of_true nofun (not_exceeds_of_isNull hnull)
    next =>
      simp only [map_eq_error]
      exact read_errors_iff hv

end Cell

end SqlCluster
