import Mathlib.Data.List.Lex
import SqlCluster.Proofs.Time.Calendar

/-!
The order of instants. Of two instants the earlier one is that whose year is less, or with the same
year the month, and so on down to the microsecond (`Instant.fields_lt_iff`).
-/

namespace SqlCluster.Time

theorem sum_take_add_getD_le_sum_take (ls : List Nat) {j k : Nat} (h : j < k) :
    (ls.take j).sum + ls.getD j 0 ≤ (ls.take k).sum := by
  have hle := sum_take_add_getD_le (ls.take k) j
  rwa [List.take_take, Nat.min_eq_left h.le, List.getD_eq_getElem?_getD,
    List.getElem?_take_of_lt h, ← List.getD_eq_getElem?_getD] at hle

namespace Date

variable {d e : Date}

/-- The year, the month and the day of a date. -/
def fields (d : Date) : List Nat := [d.year, d.month, d.day]

theorem length_fields (d : Date) : d.fields.length = 3 := rfl

theorem fields_injective (h : d.fields = e.fields) : d = e := by
  simp only [fields, List.cons.injEq, and_true] at h
  cases d
  cases e
  obtain ⟨rfl, rfl, rfl⟩ := h
  rfl

theorem toDays_lt_of_year_lt (h : d.year < e.year) : d.toDays < e.toDays := by
  have hyears := daysBeforeYear_add_le d.valid.1 h
  have hlt := d.daysOfYear_lt
  rw [d.toDays_eq, e.toDays_eq]
  omega

theorem toDays_lt_of_month_lt (hyear : d.year = e.year) (h : d.month < e.month) :
    d.toDays < e.toDays := by
  obtain ⟨-, -, hmonth, -, hday, hlast⟩ := d.valid
  rw [daysInMonth_eq hmonth] at hlast
  have hmonths := sum_take_add_getD_le_sum_take (monthLengths d.year)
    (show d.month - 1 < e.month - 1 by omega)
  rw [toDays, toDays, ← hyear, daysBeforeMonth_eq, daysBeforeMonth_eq]
  omega

theorem toDays_lt_of_fields_lt (h : d.fields < e.fields) : d.toDays < e.toDays := by
  simp only [fields, List.cons_lt_cons_iff, List.not_lt_nil, and_false, or_false] at h
  obtain hyear | ⟨hyear, hmonth | ⟨hmonth, hday⟩⟩ := h
  · exact toDays_lt_of_year_lt hyear
  · exact toDays_lt_of_month_lt hyear hmonth
  · have hfirst := d.valid.2.2.2.2.1
    rw [toDays, toDays, ← hyear, ← hmonth]
    omega

end Date

namespace Clock

variable {b c : Clock}

/-- The hour, the minute, the second and the microsecond of a time of day. -/
def fields (c : Clock) : List Nat := [c.hour, c.minute, c.second, c.micro]

theorem fields_injective (h : b.fields = c.fields) : b = c := by
  simp only [fields, List.cons.injEq, and_true] at h
  cases b
  cases c
  obtain ⟨rfl, rfl, rfl, rfl⟩ := h
  rfl

theorem toMicros_lt_of_fields_lt (h : b.fields < c.fields) : b.toMicros < c.toMicros := by
  obtain ⟨-, hminute, hsecond, hmicro⟩ := b.valid
  simp only [fields, List.cons_lt_cons_iff, List.not_lt_nil, and_false, or_false] at h
  rw [toMicros, toMicros]
  omega

end Clock

namespace Instant

variable {i j : Instant}

/-- The fields of the date of an instant, then those of its time of day. -/
def fields (i : Instant) : List Nat := i.date.fields ++ i.clock.fields

theorem fields_lt_cases (h : i.fields < j.fields) :
    i.date.fields < j.date.fields ∨ i.date = j.date ∧ i.clock.fields < j.clock.fields := by
  by_cases hdate : i.date = j.date
  · simp only [fields, hdate, Date.fields, List.cons_append, List.nil_append,
      List.cons_lt_cons_iff, Nat.lt_irrefl, true_and, false_or] at h
    exact .inr ⟨hdate, h⟩
  · have hne : i.date.fields ≠ j.date.fields := fun heq => hdate (Date.fields_injective heq)
    simp only [fields, Date.fields, List.cons_append, List.nil_append, List.cons_lt_cons_iff,
      ne_eq, List.cons.injEq, and_true, List.not_lt_nil, and_false, or_false] at h hne ⊢
    omega

theorem micros_lt_of_fields_lt (h : i.fields < j.fields) : i.micros < j.micros := by
  have hi := i.clock.toMicros_lt
  rw [i.micros_eq, j.micros_eq]
  obtain hdate | ⟨hdate, hclock⟩ := fields_lt_cases h
  · have hdays := Date.toDays_lt_of_fields_lt hdate
    rw [dayMicros] at *
    omega
  · have hmicros := Clock.toMicros_lt_of_fields_lt hclock
    rw [hdate]
    omega

/-- Instants follow each other as their fields do. -/
theorem fields_lt_iff : i.fields < j.fields ↔ i.micros < j.micros := by
  refine ⟨micros_lt_of_fields_lt, fun h => ?_⟩
  obtain hlt | heq | hgt := lt_trichotomy i.fields j.fields
  · exact hlt
  · have hlength := i.date.length_fields.trans j.date.length_fields.symm
    obtain ⟨hdate, hclock⟩ := List.append_inj heq hlength
    have hsame : i.micros = j.micros := by
      rw [i.micros_eq, j.micros_eq, Date.fields_injective hdate, Clock.fields_injective hclock]
    omega
  · have hback := micros_lt_of_fields_lt hgt
    omega

end Instant

end SqlCluster.Time
