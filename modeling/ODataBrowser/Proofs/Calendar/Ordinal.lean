import ODataBrowser.Proofs.Calendar.Range

/-!
# The days of the calendar

The date found for an ordinal has this ordinal (`Date.ordinal_of_ofOrdinal?`). So bringing a timestamp into another zone
keeps the instant that it denotes (`Timestamp.instant_of_inZone?`).
-/

namespace ODataBrowser

namespace Date

/-! ## Ordinals -/

/-- The days before a year are those of its full cycles of 400, 100, 4 and 1 years. -/
theorem daysBeforeYear_of_cycles (quadricentury : Nat) {century olympiad single : Nat} (hcentury : century ≤ 3)
    (holympiad : olympiad ≤ 24) (hsingle : single ≤ 3) :
    daysBeforeYear (400 * quadricentury + 100 * century + 4 * olympiad + single + 1) =
      146097 * quadricentury + 36524 * century + 1461 * olympiad + 365 * single := by
  unfold daysBeforeYear
  omega

/-- A year and a day of the year stand for the day that they were found for. -/
theorem daysBeforeYear_yearAndDay (n : Nat) : daysBeforeYear (yearAndDay n).1 + (yearAndDay n).2 = n := by
  simp only [yearAndDay]
  rw [daysBeforeYear_of_cycles (n / 146097) (Nat.min_le_left ..) (by omega) (Nat.min_le_left ..)]
  omega

/-- A month and a day of the month stand for the day that they were found for. -/
theorem sum_take_monthAndDay {month n : Nat} {lengths : List Nat} (h : n < lengths.sum) :
    (lengths.take ((monthAndDay month n lengths).1 - month)).sum + (monthAndDay month n lengths).2 = n + 1 := by
  induction lengths generalizing month n with
  | nil => simp at h
  | cons length rest ih =>
    rw [List.sum_cons] at h
    rw [monthAndDay]
    split
    case isTrue => simp
    case isFalse hn =>
      have hlt : n - length < rest.sum := by omega
      have hmonth := (@monthAndDay_spec (month + 1) (n - length) rest hlt).1
      have hindex : (monthAndDay (month + 1) (n - length) rest).1 - month =
          (monthAndDay (month + 1) (n - length) rest).1 - (month + 1) + 1 := by omega
      have hrest := @ih (month + 1) (n - length) hlt
      rw [hindex, List.take_succ_cons, List.sum_cons]
      omega

/-- **The date of an ordinal** has this ordinal. -/
theorem ordinal_of_ofOrdinal? {n : Nat} {d : Date} (h : ofOrdinal? n = some d) : d.ordinal = n := by
  unfold ofOrdinal? at h
  split at h
  case isTrue => contradiction
  case isFalse hin =>
    dsimp only at h
    rw [ofParts?] at h
    split at h
    case isFalse => contradiction
    case isTrue hday =>
      rw [← Option.some.inj h]
      have hyear := daysBeforeYear_yearAndDay (n - 1)
      have hmonth := @sum_take_monthAndDay 1 _ _
        (sum_monthLengths (yearAndDay (n - 1)).1 ▸ day_of_yearAndDay (n - 1))
      change daysBeforeYear _ + List.sum _ + _ = n
      dsimp only
      omega

/-! ## The parts of a date -/

theorem eq_of_parts {d e : Date} (hyear : d.year = e.year) (hmonth : d.month = e.month) (hday : d.day = e.day) :
    d = e := by
  obtain ⟨year, month, day, _⟩ := d
  cases hyear
  cases hmonth
  cases hday
  rfl

theorem year_lt (d : Date) : d.year < 10 ^ 4 :=
  Nat.lt_succ_of_le d.isCalendarDay.2.1

theorem month_lt (d : Date) : d.month < 10 ^ 2 := by
  refine Nat.lt_of_le_of_lt (?_ : d.month ≤ 12) (by decide)
  have hday : 0 < daysInMonth d.year d.month := Nat.le_trans d.isCalendarDay.2.2.1 d.isCalendarDay.2.2.2
  by_contra hlarge
  have hlength : (monthLengths (isLeapYear d.year)).length ≤ d.month - 1 := by
    rw [show (monthLengths (isLeapYear d.year)).length = 12 from rfl]
    omega
  rw [daysInMonth, if_neg (by omega), List.getD_eq_getElem?_getD, List.getElem?_eq_none hlength] at hday
  contradiction

theorem day_lt (d : Date) : d.day < 10 ^ 2 := by
  have hlengths (leap : Bool) (index : Nat) : (monthLengths leap).getD index 0 ≤ 31 := by
    rcases Nat.lt_or_ge index 12 with hsmall | hlarge
    · cases leap <;> decide +revert
    · rw [List.getD_eq_getElem?_getD, List.getElem?_eq_none hlarge]
      exact Nat.zero_le _
  refine Nat.lt_of_le_of_lt (Nat.le_trans d.isCalendarDay.2.2.2 (?_ : _ ≤ 31)) (by decide)
  unfold daysInMonth
  split
  · exact Nat.zero_le _
  · exact hlengths _ _

end Date

namespace Timestamp

/-! ## Zones -/

/-- What a local time is made of. -/
theorem ofLocalMicros?_spec {n : Int} {offset : Option Int} {t : Timestamp} (h : ofLocalMicros? n offset = some t) :
    0 ≤ n ∧ Date.ofOrdinal? (n.toNat / microsPerDay + 1) = some t.date ∧ t.micros = n.toNat % microsPerDay ∧
      t.offset = offset := by
  unfold ofLocalMicros? at h
  split at h
  case isTrue => contradiction
  case isFalse hneg =>
    obtain ⟨date, hdate, hparts⟩ := Option.bind_eq_some_iff.1 h
    rw [ofParts?] at hparts
    split at hparts
    case isFalse => contradiction
    case isTrue =>
      rw [← Option.some.inj hparts]
      exact ⟨Int.not_lt.1 hneg, hdate, rfl, rfl⟩

theorem localMicros_of_ofLocalMicros? {n : Int} {offset : Option Int} {t : Timestamp}
    (h : ofLocalMicros? n offset = some t) : t.localMicros = n := by
  obtain ⟨hn, hdate, hmicros, -⟩ := ofLocalMicros?_spec h
  rw [localMicros, Date.ordinal_of_ofOrdinal? hdate, hmicros, Nat.add_sub_cancel, Nat.mul_comm, Nat.div_add_mod]
  exact Int.toNat_of_nonneg hn

/-- **A timestamp brought into another zone** denotes the same instant. -/
theorem instant_of_inZone? {t u : Timestamp} {offset : Int} (h : t.inZone? offset = some u) :
    u.instant = t.instant := by
  rw [instant, localMicros_of_ofLocalMicros? h, (ofLocalMicros?_spec h).2.2.2]
  exact Int.add_sub_cancel _ _

end Timestamp

end ODataBrowser
