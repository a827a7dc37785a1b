import ODataBrowser.Number.Shortest
import ODataBrowser.Text.Quoted
import ODataBrowser.Value.Basic

/-!
# The text of values

`Value.display` is the text of a value on its own: a text is shown as it is, a timestamp with a space
between date and time. `Value.literal` is the text of a value inside a list or a map, where texts are
quoted and dates are written as constructor calls. A lone surrogate is shown as a replacement character in
the one, and as an escape in the other.
-/

namespace ODataBrowser

/-- The texts of parts, with a comma and a space between neighbours. -/
def commaSeparated : List (List Char) → List Char
  | [] => []
  | [cs] => cs
  | cs :: rest => cs ++ ',' :: ' ' :: commaSeparated rest

/-- A call with the given arguments. -/
def callText (name : String) (arguments : List (List Char)) : List Char :=
  name.toList ++ '(' :: commaSeparated arguments ++ [')']

/-- The constructor call of a duration in microseconds; its parts below a day are not negative. -/
def durationLiteral (micros : Int) : List Char :=
  let perDay : Int := microsPerDay
  let days := micros / perDay
  let seconds := micros % perDay / 1000000
  let rest := micros % 1000000
  let part (name : String) (n : Int) : List (List Char) :=
    if n = 0 then [] else [name.toList ++ '=' :: Numeral.ofInt n]
  let parts := part "days" days ++ part "seconds" seconds ++ part "microseconds" rest
  callText "datetime.timedelta" (if parts.isEmpty then [['0']] else parts)

/-- The constructor call of a zone. -/
def zoneLiteral (offset : Int) : List Char :=
  if offset = 0 then "datetime.timezone.utc".toList
  else callText "datetime.timezone" [durationLiteral offset]

/-- The constructor call of a date. -/
def Date.literal (d : Date) : List Char :=
  callText "datetime.date" ([d.year, d.month, d.day].map Numeral.ofNat)

/-- The constructor call of a timestamp; seconds and microseconds are left out where they and what
follows them are zero. -/
def Timestamp.literal (t : Timestamp) : List Char :=
  let fields := [t.date.year, t.date.month, t.date.day, t.hour, t.minute] ++
    (if t.microsecond ≠ 0 then [t.second, t.microsecond]
      else if t.second ≠ 0 then [t.second] else [])
  callText "datetime.datetime" (fields.map Numeral.ofNat ++
    (match t.offset with
      | some z => ["tzinfo=".toList ++ zoneLiteral z]
      | none => []))

/-- A code point inside the given quotes. -/
def quotedPoint (quote : Char) : CodePoint → List Char
  | .char c => Text.quotedChar quote c
  | .lone s => '\\' :: 'u' :: Text.hexText 4 (CodePoint.lone s).code

/-- The quoted form of a text. -/
def JsonText.quoted : JsonText → List Char
  | .string s => Text.quoted s.toList
  | t =>
    let quote := Text.quoteFor t.shown
    quote :: t.points.flatMap (quotedPoint quote) ++ [quote]

namespace Scalar

/-- The text of a scalar on its own. -/
def display : Scalar → List Char
  | .null => "None".toList
  | .bool b => if b then "True".toList else "False".toList
  | .int n => Numeral.ofInt n
  | .float x => x.text
  | .decimal d => d.text
  | .textual t => t.shown
  | .date d => d.isoText
  | .timestamp t => t.isoText ' '

/-- The scalar as a text: a text as it is, and all else by its text. -/
def asText : Scalar → JsonText
  | .textual t => t
  | s => .ofChars s.display

/-- The text of a scalar inside a list or a map. -/
def literal : Scalar → List Char
  | .decimal d => callText "Decimal" [Text.quoted d.text]
  | .textual t => t.quoted
  | .date d => d.literal
  | .timestamp t => t.literal
  | s => s.display

end Scalar

namespace Value

mutual

/-- The text of a value inside a list or a map. -/
def literal : Value → List Char
  | .scalar s => s.literal
  | .list items => '[' :: commaSeparated (literals items) ++ [']']
  | .map entries => '\x7b' :: commaSeparated (entryLiterals entries) ++ ['\x7d']

/-- The texts of the items of a list. -/
def literals : List Value → List (List Char)
  | [] => []
  | v :: rest => v.literal :: literals rest

/-- The texts of the entries of a map. -/
def entryLiterals : List (Scalar × Value) → List (List Char)
  | [] => []
  | (key, v) :: rest => (key.literal ++ ':' :: ' ' :: v.literal) :: entryLiterals rest

end

/-- The text of a value on its own. -/
def display : Value → List Char
  | .scalar s => s.display
  | v => v.literal

/-- The value as a text: a text as it is, and all else by its text. -/
def asText : Value → JsonText
  | .scalar s => s.asText
  | v => .ofChars v.literal

/-- The text of a value on its own, as a string. -/
def displayText (v : Value) : String :=
  String.ofList v.display

end Value

end ODataBrowser
