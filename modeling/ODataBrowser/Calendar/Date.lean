import ODataBrowser.Number.Numeral

/-!
# Calendar dates

Dates of the proleptic Gregorian calendar in the years 1 to 9999. The ordinal of a date counts days,
with 0001-01-01 as day 1; `Date.ofOrdinal?` finds the date of an ordinal.
-/

namespace ODataBrowser

/-- Whether the year has a 29 February. -/
def isLeapYear (year : Nat) : Bool :=
  year % 4 == 0 && (year % 100 != 0 || year % 400 == 0)

/-- The lengths of the months of a year. -/
def monthLengths (leap : Bool) : List Nat :=
  [31, if leap then 29 else 28, 31, 30, 31, 30, 31, 31, 30, 31, 30, 31]

/-- The number of days in a month, zero for a month that does not exist. -/
def daysInMonth (year month : Nat) : Nat :=
  if month = 0 then 0 else (monthLengths (isLeapYear year)).getD (month - 1) 0

/-- A date of the calendar exists when its year is between 1 and 9999 and its month has that day. -/
def IsCalendarDay (year month day : Nat) : Prop :=
  1 ≤ year ∧ year ≤ 9999 ∧ 1 ≤ day ∧ day ≤ daysInMonth year month

instance (year month day : Nat) : Decidable (IsCalendarDay year month day) :=
  inferInstanceAs (Decidable (_ ∧ _ ∧ _ ∧ _))

/-- A date in the years 1 to 9999. -/
structure Date where
  year : Nat
  month : Nat
  day : Nat
  /-- The calendar has the day. -/
  isCalendarDay : IsCalendarDay year month day
deriving DecidableEq

namespace Date

/-- The date with the given year, month and day, if the calendar has it. -/
def ofParts? (year month day : Nat) : Option Date :=
  if h : IsCalendarDay year month day then some ⟨year, month, day, h⟩ else none

/-- The number of days before the first day of a year. -/
def daysBeforeYear (year : Nat) : Nat :=
  365 * (year - 1) + (year - 1) / 4 - (year - 1) / 100 + (year - 1) / 400

/-- The number of days of the year before the first day of a month. -/
def daysBeforeMonth (year month : Nat) : Nat :=
  ((monthLengths (isLeapYear year)).take (month - 1)).foldr (· + ·) 0

/-- The number of the day, counted from 0001-01-01 as 1. -/
def ordinal (d : Date) : Nat :=
  daysBeforeYear d.year + daysBeforeMonth d.year d.month + d.day

/-- The ordinal of 9999-12-31. -/
def maxOrdinal : Nat := 3652059

/-- The year and the zero-based day of the year of the day with ordinal `n + 1`, by the cycles of 400,
100, 4 and 1 years. -/
def yearAndDay (n : Nat) : Nat × Nat :=
  let quadricentury := n / 146097
  let century := min 3 (n % 146097 / 36524)
  let inCentury := n % 146097 - century * 36524
  let olympiad := inCentury / 1461
  let single := min 3 (inCentury % 1461 / 365)
  (400 * quadricentury + 100 * century + 4 * olympiad + single + 1,
    inCentury % 1461 - single * 365)

/-- The month and the day of the month of the zero-based day `n`, when the months from `month` on have
the given lengths. -/
def monthAndDay (month n : Nat) : List Nat → Nat × Nat
  | [] => (month, n + 1)
  | length :: rest => if n < length then (month, n + 1) else monthAndDay (month + 1) (n - length) rest

/-- The date with the given ordinal. -/
def ofOrdinal? (n : Nat) : Option Date :=
  if n = 0 ∨ maxOrdinal < n then none
  else
    let (year, dayOfYear) := yearAndDay (n - 1)
    let (month, day) := monthAndDay 1 dayOfYear (monthLengths (isLeapYear year))
    ofParts? year month day

/-- The date in the form `YYYY-MM-DD`. -/
def isoText (d : Date) : List Char :=
  Numeral.padded 4 d.year ++ '-' :: Numeral.padded 2 d.month ++ '-' :: Numeral.padded 2 d.day

/-- The ordinal of the Monday of week 1 of a year: the week that has the year's 4 January. Years before
1 have no ordinals, so the count is an integer. -/
def firstMonday (year : Nat) : Int :=
  let newYear : Int := daysBeforeYear year + 1
  let weekday := (newYear + 6) % 7
  newYear - weekday + (if 3 < weekday then 7 else 0)

/-- Whether the year has a week 53: it starts on a Thursday, or on a Wednesday in a leap year. -/
def hasWeek53 (year : Nat) : Bool :=
  let weekday := (daysBeforeYear year + 1 + 6) % 7
  weekday == 3 || (weekday == 2 && isLeapYear year)

/-- The date of a day of a numbered week; weeks start on Monday, day 1. -/
def ofWeek? (year week day : Nat) : Option Date :=
  if year = 0 ∨ week = 0 ∨ 53 < week ∨ (week = 53 ∧ hasWeek53 year = false) ∨ day = 0 ∨ 7 < day then none
  else ofOrdinal? (firstMonday year + ((week - 1) * 7 + day - 1 : Nat)).toNat

end Date

end ODataBrowser
