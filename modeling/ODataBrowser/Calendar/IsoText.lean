import ODataBrowser.Calendar.Timestamp

/-!
# Reading ISO 8601 timestamps

`Timestamp.ofIso?` reads a date, an optional time after any one character and an optional zone. Dates
are `YYYY-MM-DD`, `YYYYMMDD`, `YYYY-Www-D` or `YYYYWwwD`, the last two also without the day; times have
one to three fields of two digits, with or without colons, and a fraction. The text is read as its
UTF-8 code units, each shown as the character of that code, so that positions count units.
-/

namespace ODataBrowser

namespace IsoText

/-- The UTF-8 code units of a text, each as the character of that code. -/
def codeUnits (cs : List Char) : List Char :=
  cs.flatMap fun c => (String.utf8EncodeChar c).map fun unit => Char.ofNat unit.toNat

/-- Reads exactly `count` digits of ASCII. -/
def readDigits (count : Nat) (cs : List Char) : Option (Nat × List Char) :=
  let digits := cs.take count
  if digits.length = count ∧ digits.all Char.isDigit then
    some (digits.foldl (fun n c => 10 * n + (c.toNat - 48)) 0, cs.drop count)
  else none

/-! ### Dates -/

/-- Reads the week and the day behind a `W`; the day defaults to Monday. -/
def readWeek (year : Nat) (hyphens : Bool) (cs : List Char) : Option Date := do
  let (week, rest) ← readDigits 2 cs
  match rest, hyphens with
  | [], _ => Date.ofWeek? year week 1
  | '-' :: rest, true =>
    let (day, _) ← readDigits 1 rest
    Date.ofWeek? year week day
  | _ :: _, true => none
  | rest, false =>
    let (day, _) ← readDigits 1 rest
    Date.ofWeek? year week day

/-- Reads a date that takes up the whole text. -/
def readDate (cs : List Char) : Option Date := do
  let (year, rest) ← readDigits 4 cs
  match rest with
  | '-' :: 'W' :: rest => readWeek year true rest
  | 'W' :: rest => readWeek year false rest
  | '-' :: rest =>
    let (month, rest) ← readDigits 2 rest
    match rest with
    | '-' :: rest =>
      let (day, rest) ← readDigits 2 rest
      if rest.isEmpty then Date.ofParts? year month day else none
    | _ => none
  | _ =>
    let (month, rest) ← readDigits 2 rest
    let (day, rest) ← readDigits 2 rest
    if rest.isEmpty then Date.ofParts? year month day else none

/-- The number of code units of the date at the start of a timestamp. Where a week date may or may not
name a day, the digits that follow decide, since the fields of a time come in pairs. -/
def dateLength (cs : List Char) : Option Nat :=
  let length := cs.length
  let isDigitAt (i : Nat) : Bool := (cs.getD i ' ').isDigit
  if length < 7 then none
  else if length = 7 then some 7
  else if cs.getD 4 ' ' = '-' then
    if cs.getD 5 ' ' ≠ 'W' then some 10
    else if cs.getD 8 ' ' ≠ '-' then some 8
    else if length = 9 then none
    else if isDigitAt 10 then some 8
    else some 10
  else if cs.getD 4 ' ' = 'W' then
    let stop := 7 + ((cs.drop 7).takeWhile Char.isDigit).length
    if stop < 9 then some stop
    else if stop % 2 = 0 then some 7
    else some 8
  else some 8

/-! ### Times of day -/

/-- Hours, minutes and seconds with a fraction, not yet checked for range. -/
structure Clock where
  hour : Nat := 0
  minute : Nat := 0
  second : Nat := 0
  micros : Nat := 0
  /-- Something stands behind the fields. -/
  hasRest : Bool

/-- Puts the value of the field with the given index, counted from the hour. -/
def Clock.withField (clock : Clock) (index value : Nat) : Clock :=
  match index with
  | 0 => { clock with hour := value }
  | 1 => { clock with minute := value }
  | _ => { clock with second := value }

/-- The end mark of a text. -/
def endMark : Char := '\x00'

/-- Reads the digits of a fraction of a second: the first six count. -/
def readFraction (mark : Char) (cs : List Char) : Option Clock := do
  let count := min 6 cs.length
  let (value, rest) ← readDigits count cs
  let next := (rest.dropWhile Char.isDigit).headD mark
  some { micros := value * tenPow (6 - count), hasRest := next != endMark }

/-- Reads the fields from the one with index `index` on. `fields` more fields may come; `colons` says
whether colons separate them, once that is known; `mark` is the character behind the text. -/
def readFields (mark : Char) (index : Nat) (colons : Option Bool) :
    (fields : Nat) → List Char → Option Clock
  | 0, cs => readFraction mark cs
  | fields + 1, cs => do
    let (value, rest) ← readDigits 2 cs
    let next := rest.headD mark
    let colons := colons.getD (next == ':')
    let behind := rest.drop 1
    let clock ←
      if behind.isEmpty then some { hasRest := next != endMark }
      else if colons && next == ':' then readFields mark (index + 1) (some colons) fields behind
      else if next == '.' || next == ',' then readFraction mark behind
      else if !colons then readFields mark (index + 1) (some colons) fields rest
      else none
    some (clock.withField index value)

/-- Reads up to three fields and a fraction. -/
def readClock (mark : Char) (cs : List Char) : Option Clock :=
  readFields mark 0 none 3 cs

/-- The fields as microseconds. -/
def Clock.toMicros (clock : Clock) : Nat :=
  ((clock.hour * 60 + clock.minute) * 60 + clock.second) * 1000000 + clock.micros

/-- Whether the fields are a time of day. -/
def Clock.isTimeOfDay (clock : Clock) : Bool :=
  clock.hour < 24 && clock.minute < 60 && clock.second < 60

/-- Reads the zone behind a time: `Z`, or a sign and fields that nothing follows. An offset of less than
a second is none at all. -/
def readZone : List Char → Option Int
  | 'Z' :: rest => if rest.headD endMark = endMark then some 0 else none
  | sign :: rest => do
    let clock ← readClock endMark rest
    if clock.hasRest then none
    else if clock.toMicros < 1000000 then some 0
    else some (if sign = '-' then -clock.toMicros else clock.toMicros)
  | [] => none

/-- Whether a zone starts with the character. -/
def startsZone (c : Char) : Bool :=
  c == '+' || c == '-' || c == 'Z'

/-- Reads a time of day and, where there is one, the zone behind it. -/
def readTime (cs : List Char) : Option (Nat × Option Int) := do
  let time := cs.takeWhile (!startsZone ·)
  let zone := cs.dropWhile (!startsZone ·)
  let clock ← readClock (zone.headD endMark) time
  if !clock.isTimeOfDay then none
  else if zone.isEmpty then if clock.hasRest then none else some (clock.toMicros, none)
  else (readZone zone).map fun offset => (clock.toMicros, some offset)

/-- The number of code units of the character that starts with the given unit. -/
def unitsOfCharacter (first : Char) : Nat :=
  let n := first.toNat
  if n < 0x80 then 1
  else if n / 16 = 0xE then 3
  else if n / 16 = 0xF then 4
  else 2

/-- Reads a date and, if anything follows it, a separating character and a time. -/
def read (units : List Char) : Option Timestamp := do
  let length ← dateLength units
  let date ← readDate (units.take length)
  match units.drop length with
  | [] => some (Timestamp.ofDate date)
  | first :: rest =>
    let (micros, offset) ← readTime ((first :: rest).drop (unitsOfCharacter first))
    Timestamp.ofParts? date micros offset

end IsoText

/-- Reads a timestamp in ISO 8601 form. -/
def Timestamp.ofIso? (cs : List Char) : Option Timestamp :=
  IsoText.read (IsoText.codeUnits cs)

end ODataBrowser
