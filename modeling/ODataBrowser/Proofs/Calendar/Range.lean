import Mathlib.Algebra.Ring.Nat
import ODataBrowser.Calendar.Timestamp

/-!
# The range of the calendar

The calendar has a date for each ordinal from that of 0001-01-01 to that of 9999-12-31
(`Date.ofOrdinal?_eq_none_iff`). So an instant has a timestamp in universal time just if it lies in these years
(`Timestamp.inZone?_zero_eq_none_iff`).
-/

namespace ODataBrowser

namespace Date

/-! ## The year of a day -/

/-- The number of days in a year. -/
def daysInYear (year : Nat) : Nat :=
  if isLeapYear year then 366 else 365

theorem year_of_yearAndDay {n : Nat} (h : n < maxOrdinal) : 1 ≤ (yearAndDay n).1 ∧ (yearAndDay n).1 ≤ 9999 := by
  unfold maxOrdinal at h
  simp only [yearAndDay]
  omega

/-- The day of the year exists in the year. -/
theorem day_of_yearAndDay (n : Nat) : (yearAndDay n).2 < daysInYear (yearAndDay n).1 := by
  unfold daysInYear
  split
  case isTrue => simp only [yearAndDay]; omega
  case isFalse hleap =>
    simp only [isLeapYear, yearAndDay] at hleap ⊢
    simp at hleap
    omega

/-! ## The month of a day -/

/-- A day of the months from one on has a month of these, and exists in it. -/
theorem monthAndDay_spec {month n : Nat} {lengths : List Nat} (h : n < lengths.sum) :
    month ≤ (monthAndDay month n lengths).1 ∧ 1 ≤ (monthAndDay month n lengths).2 ∧
      (monthAndDay month n lengths).2 ≤ lengths.getD ((monthAndDay month n lengths).1 - month) 0 := by
  induction lengths generalizing month n with
  | nil => simp at h
  | cons length rest ih =>
    rw [List.sum_cons] at h
    rw [monthAndDay]
    split
    case isTrue hn => simpa using Nat.succ_le_of_lt hn
    case isFalse hn =>
      obtain ⟨hmonth, hone, hday⟩ := @ih (month + 1) (n - length) (by omega)
      refine ⟨by omega, hone, ?_⟩
      have hindex : (monthAndDay (month + 1) (n - length) rest).1 - month =
          (monthAndDay (month + 1) (n - length) rest).1 - (month + 1) + 1 := by omega
      rwa [hindex, List.getD_cons_succ]

theorem sum_monthLengths (year : Nat) : (monthLengths (isLeapYear year)).sum = daysInYear year := by
  unfold daysInYear
  cases isLeapYear year <;> rfl

/-- The month and the day of a day of the year exist. -/
theorem isCalendarDay_of_monthAndDay {year n : Nat} (hyear : 1 ≤ year ∧ year ≤ 9999) (hn : n < daysInYear year) :
    let date := monthAndDay 1 n (monthLengths (isLeapYear year))
    IsCalendarDay year date.1 date.2 := by
  intro date
  obtain ⟨hmonth, hone, hday⟩ := @monthAndDay_spec 1 n _ (sum_monthLengths year ▸ hn)
  refine ⟨hyear.1, hyear.2, hone, ?_⟩
  rwa [daysInMonth, if_neg (Nat.ne_of_gt hmonth)]

/-- **The calendar has a date for each ordinal in its range**, and for no other. -/
theorem ofOrdinal?_eq_none_iff {n : Nat} : ofOrdinal? n = none ↔ n = 0 ∨ maxOrdinal < n := by
  unfold ofOrdinal?
  split
  case isTrue hout => exact iff_of_true rfl hout
  case isFalse hin =>
    have hn : n - 1 < maxOrdinal := by omega
    have hday := isCalendarDay_of_monthAndDay (year_of_yearAndDay hn) (day_of_yearAndDay (n - 1))
    refine iff_of_false ?_ hin
    dsimp only
    rw [ofParts?, dif_pos hday]
    simp

end Date

namespace Timestamp

/-! ## Instants -/

/-- A local time is in the calendar from the start of its first day to the end of its last one. -/
theorem ofLocalMicros?_eq_none_iff {n offset : Int} (hoffset : offset.natAbs < microsPerDay) :
    ofLocalMicros? n (some offset) = none ↔ n < 0 ∨ (Date.maxOrdinal * microsPerDay : Nat) ≤ n := by
  have hdays : Date.ofOrdinal? (n.toNat / microsPerDay + 1) = none ↔ Date.maxOrdinal * microsPerDay ≤ n.toNat := by
    rw [Date.ofOrdinal?_eq_none_iff, ← Nat.le_div_iff_mul_le (by decide)]
    generalize n.toNat / microsPerDay = days
    omega
  unfold ofLocalMicros?
  split
  case isTrue hneg => exact iff_of_true rfl (.inl hneg)
  case isFalse hneg =>
    rw [or_iff_right hneg]
    cases hdate : Date.ofOrdinal? (n.toNat / microsPerDay + 1) with
    | none =>
      have hlast := hdays.1 hdate
      exact iff_of_true rfl (by omega)
    | some date =>
      have hlast : ¬Date.maxOrdinal * microsPerDay ≤ n.toNat := fun h => by simp [hdays.2 h] at hdate
      have hparts : n.toNat % microsPerDay < microsPerDay ∧ ∀ z ∈ some offset, z.natAbs < microsPerDay :=
        ⟨Nat.mod_lt _ (by decide), by simpa using hoffset⟩
      refine iff_of_false ?_ (by omega)
      simp [ofParts?, hparts]

/-- **A timestamp can be brought to universal time** just if its instant is in the calendar. -/
theorem inZone?_zero_eq_none_iff (t : Timestamp) :
    t.inZone? 0 = none ↔ t.instant < 0 ∨ (Date.maxOrdinal * microsPerDay : Nat) ≤ t.instant := by
  rw [inZone?, Int.add_zero, ofLocalMicros?_eq_none_iff (by decide)]

end Timestamp

end ODataBrowser
