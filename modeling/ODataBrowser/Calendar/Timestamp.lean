import ODataBrowser.Calendar.Date

/-!
# Timestamps

A timestamp is a date, a time of day in microseconds and, where it is known, the offset of its zone
from universal time. Two timestamps with offsets denote the same instant when their distances from
0001-01-01T00:00:00Z are the same.
-/

namespace ODataBrowser

/-- The number of microseconds in a day. -/
def microsPerDay : Nat := 86400000000

/-- A date and time of day, with or without an offset from universal time. -/
structure Timestamp where
  date : Date
  /-- Microseconds since midnight. -/
  micros : Nat
  /-- The local time minus universal time, in microseconds. -/
  offset : Option Int
  /-- The time lies within the day. -/
  micros_lt : micros < microsPerDay
  /-- The offset is shorter than a day. -/
  offset_lt : ∀ z ∈ offset, z.natAbs < microsPerDay
deriving DecidableEq

namespace Timestamp

/-- The timestamp with the given parts, if they are in range. -/
def ofParts? (date : Date) (micros : Nat) (offset : Option Int) : Option Timestamp :=
  if h : micros < microsPerDay ∧ ∀ z ∈ offset, z.natAbs < microsPerDay then
    some ⟨date, micros, offset, h.1, h.2⟩
  else none

/-- Midnight at the start of a date, without an offset. -/
def ofDate (date : Date) : Timestamp :=
  ⟨date, 0, none, by decide, by simp⟩

/-- The hour of the day. -/
def hour (t : Timestamp) : Nat := t.micros / 3600000000

/-- The minute of the hour. -/
def minute (t : Timestamp) : Nat := t.micros / 60000000 % 60

/-- The second of the minute. -/
def second (t : Timestamp) : Nat := t.micros / 1000000 % 60

/-- The microsecond of the second. -/
def microsecond (t : Timestamp) : Nat := t.micros % 1000000

/-- Microseconds from 0001-01-01T00:00:00 to the local date and time. -/
def localMicros (t : Timestamp) : Int :=
  ((t.date.ordinal - 1) * microsPerDay + t.micros : Nat)

/-- Microseconds from 0001-01-01T00:00:00Z to the instant denoted; a timestamp without an offset is
taken as universal time. -/
def instant (t : Timestamp) : Int :=
  t.localMicros - t.offset.getD 0

/-- The timestamp with the given offset that lies the given number of microseconds after
0001-01-01T00:00:00 local time, if that is within the calendar. -/
def ofLocalMicros? (n : Int) (offset : Option Int) : Option Timestamp :=
  if n < 0 then none
  else do
    let date ← Date.ofOrdinal? (n.toNat / microsPerDay + 1)
    ofParts? date (n.toNat % microsPerDay) offset

/-- The same instant in a zone with the given offset, if that is within the calendar. -/
def inZone? (t : Timestamp) (offset : Int) : Option Timestamp :=
  ofLocalMicros? (t.instant + offset) (some offset)

/-- An offset in the form `+HH:MM`, with seconds and microseconds where they are not zero. -/
def offsetText (offset : Int) : List Char :=
  let n := offset.natAbs
  let seconds := n / 1000000 % 60
  let micros := n % 1000000
  (if offset < 0 then '-' else '+') :: Numeral.padded 2 (n / 3600000000) ++
    ':' :: Numeral.padded 2 (n / 60000000 % 60) ++
    (if seconds = 0 ∧ micros = 0 then [] else ':' :: Numeral.padded 2 seconds) ++
    (if micros = 0 then [] else '.' :: Numeral.padded 6 micros)

/-- The timestamp in ISO 8601 form with the given character between date and time; microseconds
appear only where they are not zero. -/
def isoText (separator : Char) (t : Timestamp) : List Char :=
  t.date.isoText ++ separator :: Numeral.padded 2 t.hour ++ ':' :: Numeral.padded 2 t.minute ++
    ':' :: Numeral.padded 2 t.second ++
    (if t.microsecond = 0 then [] else '.' :: Numeral.padded 6 t.microsecond) ++
    (match t.offset with
      | some z => offsetText z
      | none => [])

end Timestamp

end ODataBrowser
