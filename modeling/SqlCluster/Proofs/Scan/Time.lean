import SqlCluster.Proofs.Scan.Overflow
import SqlCluster.Proofs.Time.Order
import SqlCluster.Proofs.Time.Stamp

/-!
Times scanned. A stamp is read as its local time less the offset of its zone
(`Cell.readTime_stamp`). An integer is read as the instant so many seconds after the beginning of
the year 1970, if the calendar holds it (`Cell.convert_epoch`).
-/

namespace SqlCluster

namespace Time.Instant

variable {n : Int} {i : Instant}

/-- The beginning of the year 1970. -/
def newYear1970 : Date := ⟨1970, 1, 1, by decide⟩

theorem secondsAt_newYear1970 : secondsAt newYear1970 .midnight = epoch := by decide

theorem ofEpoch?_eq_some (h : ofEpoch? n = some i) :
    secondsAt i.date i.clock = secondsAt newYear1970 .midnight + n ∧ i.clock.micro = 0 := by
  have hmicros := of?_eq_some.1 h
  rw [secondsAt_newYear1970, Int.add_comm]
  exact secondsAt_eq_of_micros (by decide) (by rw [hmicros]; exact (Int.add_zero _).symm)

theorem exists_ofEpoch?_iff :
    (∃ i, ofEpoch? n = some i) ↔ -62135596800 ≤ n ∧ n ≤ 253402300799 := by
  have hepoch : (epoch : Int) = 62135596800 := by decide
  have hlast : (calendarDays * dayMicros : Int) = 315537897600000000 := by decide
  rw [← Option.isSome_iff_exists, Option.isSome_iff_ne_none, ne_eq, ofEpoch?, of?_eq_none_iff,
    not_not, hepoch, hlast]
  omega

theorem micros_lt_of_ofEpoch? {m : Int} {j : Instant} (hmn : m < n) (hj : ofEpoch? m = some j)
    (hi : ofEpoch? n = some i) : j.micros < i.micros := by
  have hjm := of?_eq_some.1 hj
  have him := of?_eq_some.1 hi
  omega

end Time.Instant

namespace Cell

open Time

variable {n : Int} {column : String} {cell : Cell}

/-! ### Stamps -/

/-- A stamp whose instant the calendar holds is read as its local time less the offset of its zone.
Of a fraction the first six digits count, and what stands behind them is cut off. -/
theorem readTime_stamp {t : Stamp} (h : t.InCalendar) (column : String) :
    ∃ i, readTime (.text (String.ofList t.text)) column = .ok i ∧
      secondsAt i.date i.clock = secondsAt t.date t.clock - t.zone.seconds ∧
      i.clock.micro = Numeral.digitsValue (sixDigits (t.fraction.getD [])) ∧
      ∀ digits ∈ t.fraction,
        i.clock.micro = Numeral.digitsValue digits * 10 ^ 6 / 10 ^ digits.length := by
  obtain ⟨i, hread, hseconds, hmicro⟩ := h.exists_readInstant
  refine ⟨i, ?_, hseconds, hmicro, fun digits hdigits => ?_⟩
  · rw [readTime, String.toList_ofList, hread]
  · rw [hmicro, t.micros_eq hdigits]

/-- A stamp in the last second of a year, behind UTC, with more than six digits of a fraction. -/
def lateStamp : Stamp where
  date := ⟨1999, 12, 31, by decide⟩
  separator := ' '
  separates := .inr rfl
  hour := 23
  minute := 59
  second := 59
  valid := by decide
  fraction := some "99999999".toList
  isFraction := by
    rintro digits ⟨⟩
    exact ⟨by decide, List.all_eq_true.1 rfl⟩
  zone := .offset true 23 59 (by decide)

theorem readTime_stamp_late :
    String.ofList lateStamp.text = "1999-12-31 23:59:59.99999999-23:59" ∧
    ∃ i, readTime (.text (String.ofList lateStamp.text)) "at" = .ok i ∧
      i.date = ⟨2000, 1, 1, by decide⟩ ∧ i.clock = ⟨23, 58, 59, 999999, by decide⟩ := by
  have hin : lateStamp.InCalendar :=
    ⟨⟨2000, 1, 1, by decide⟩, ⟨23, 58, 59, 0, by decide⟩, by decide⟩
  obtain ⟨i, hread, hseconds, hmicro, -⟩ := readTime_stamp hin "at"
  exact ⟨by decide, i, hread, i.date_eq_clock_eq_of_seconds (hseconds.trans (by decide)) hmicro⟩

/-! ### Epochs -/

theorem convert_int_eq (n : Int) (column : String) :
    convert (.int n) column (.plain .time) = match Instant.ofEpoch? n with
      | some i => .ok (.plain (.time i))
      | none => refuse (.int n) (.epochOutOfRange (.int n) column) := by
  have hseconds : (seconds? (.int n)).bind Instant.ofEpoch? = Instant.ofEpoch? n := rfl
  rw [convert_plain rfl, PlainKind.target, read, readTime, hseconds]
  cases Instant.ofEpoch? n with
  | some i => rfl
  | none =>
    rw [refuse, refuse]
    rfl

theorem convert_int_eq_ok : convert (.int n) column (.plain .time) = .ok cell ↔
    ∃ i, Instant.ofEpoch? n = some i ∧ cell = .plain (.time i) := by
  rw [convert_int_eq]
  cases Instant.ofEpoch? n with
  | some i => simp [eq_comm]
  | none => simp [refuse]

theorem convert_text_plainText {i : Instant} (h : i.clock.micro = 0) (column : String) :
    convert (.text (String.ofList i.plainText)) column (.plain .time) = .ok (.plain (.time i)) := by
  rw [convert_plain rfl, PlainKind.target, read, readTime, String.toList_ofList,
    readInstant_plainText h]
  rfl

/-- An integer of not too many digits is read as the instant so many seconds after the beginning of
the year 1970 exactly if that lies in the years 1 to 9999, and is out of range otherwise. Greater
integers are read as later instants, and the text of an instant is read as that instant again. -/
theorem convert_epoch (hn : Double.digitCount n.natAbs ≤ Numeral.digitLimit) (column : String) :
    ((∃ cell, convert (.int n) column (.plain .time) = .ok cell) ↔
      -62135596800 ≤ n ∧ n ≤ 253402300799) ∧
    (∀ e, convert (.int n) column (.plain .time) = .error e →
      e = .epochOutOfRange (.int n) column) ∧
    ∀ cell, convert (.int n) column (.plain .time) = .ok cell → ∃ i, cell = .plain (.time i) ∧
      secondsAt i.date i.clock = secondsAt Instant.newYear1970 .midnight + n ∧
      i.clock.micro = 0 ∧
      (∀ m j, m < n → convert (.int m) column (.plain .time) = .ok (.plain (.time j)) →
        j.fields < i.fields) ∧
      convert (.text (String.ofList i.plainText)) column (.plain .time) =
        .ok (.plain (.time i)) := by
  have hwritable : (Value.int n).isWritable := Numeral.isWritable_iff (n := n.natAbs).2 hn
  refine ⟨?_, fun e he => ?_, fun cell hcell => ?_⟩
  · rw [← Instant.exists_ofEpoch?_iff]
    simp only [convert_int_eq_ok]
    exact ⟨fun ⟨_, i, hi, _⟩ => ⟨i, hi⟩, fun ⟨i, hi⟩ => ⟨_, i, hi, rfl⟩⟩
  · rw [convert_int_eq] at he
    split at he
    · cases he
    · rw [refuse, if_pos hwritable] at he
      cases he
      rfl
  · obtain ⟨i, hi, rfl⟩ := convert_int_eq_ok.1 hcell
    obtain ⟨hseconds, hmicro⟩ := Instant.ofEpoch?_eq_some hi
    refine ⟨i, rfl, hseconds, hmicro, fun m j hmn hj => ?_, convert_text_plainText hmicro column⟩
    obtain ⟨j', hj', heq⟩ := convert_int_eq_ok.1 hj
    cases heq
    exact Instant.fields_lt_iff.2 (Instant.micros_lt_of_ofEpoch? hmn hj' hi)

/-- The last second that is read, and the next one, which is not. -/
theorem convert_epoch_last :
    (∃ i, convert (.int 253402300799) "at" (.plain .time) = .ok (.plain (.time i)) ∧
      convert (.text (String.ofList i.plainText)) "at" (.plain .time) = .ok (.plain (.time i))) ∧
    convert (.int 253402300800) "at" (.plain .time) =
      .error (.epochOutOfRange (.int 253402300800) "at") := by
  have hlast := convert_epoch (n := 253402300799) (by decide) "at"
  have hnext := convert_epoch (n := 253402300800) (by decide) "at"
  obtain ⟨cell, hcell⟩ := hlast.1.2 (by decide)
  obtain ⟨i, rfl, -, -, -, htext⟩ := hlast.2.2 cell hcell
  refine ⟨⟨i, hcell, htext⟩, ?_⟩
  cases h : convert (.int 253402300800) "at" (.plain .time) with
  | error e => rw [hnext.2.1 e h]
  | ok cell => exact absurd (hnext.1.1 ⟨cell, h⟩) (by decide)

end Cell

end SqlCluster
