import ODataBrowser.Calendar.Epoch

/-!
# Legacy JSON dates

The older JSON form of a date is `/Date(N)/`, where `N` counts milliseconds from the epoch, or
`/Date(N+hhmm)/` with an offset in which the instant is to be shown.
-/

namespace ODataBrowser.LegacyDate

open ODataBrowser.Text

/-- The parts of a legacy date. -/
structure Parts where
  /-- Whether the count is negative. -/
  negative : Bool
  /-- The digits of the count. -/
  digits : List Char
  /-- The sign and the minutes of the offset. -/
  offset : Option (Bool × Nat)

/-- Reads the offset behind the count and the closing `)/`. -/
def readSuffix (cs : List Char) : Option (Option (Bool × Nat)) :=
  match cs with
  | [')', '/'] => some none
  | [sign, h₁, h₂, m₁, m₂, ')', '/'] =>
    if (sign == '+' || sign == '-') && [h₁, h₂, m₁, m₂].all isDigit then
      some (some (sign == '-', natOfDigits [h₁, h₂] * 60 + natOfDigits [m₁, m₂]))
    else none
  | _ => none

/-- Takes a legacy date apart; white space may surround it. -/
def readParts (cs : List Char) : Option Parts :=
  match strip cs with
  | '/' :: 'D' :: 'a' :: 't' :: 'e' :: '(' :: rest =>
    let (negative, rest) := match rest with
      | '-' :: rest => (true, rest)
      | _ => (false, rest)
    let digits := rest.takeWhile isDigit
    if digits.isEmpty then none
    else (readSuffix (rest.dropWhile isDigit)).map fun offset => ⟨negative, digits, offset⟩
  | _ => none

/-- The offset in microseconds. -/
def Parts.offsetMicros (p : Parts) : Int :=
  match p.offset with
  | none => 0
  | some (negative, minutes) =>
    let micros : Int := (minutes * 60000000 : Nat)
    if negative then -micros else micros

/-- Whether the offset is a day or longer, which no zone is. -/
def Parts.isOffsetTooLong (p : Parts) : Bool :=
  microsPerDay ≤ p.offsetMicros.natAbs

/-- The instant of a legacy date, shown in its offset, if it is within the calendar. -/
def Parts.timestamp? (p : Parts) : Option Timestamp := do
  if Numeral.maxDigits < p.digits.length then none
  else
    let n : Int := natOfDigits p.digits
    let t ← Epoch.ofIntMillis? (if p.negative then -n else n)
    t.inZone? p.offsetMicros

end ODataBrowser.LegacyDate
