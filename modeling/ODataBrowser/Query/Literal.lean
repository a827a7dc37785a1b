import ODataBrowser.Calendar.Epoch
import ODataBrowser.Calendar.IsoText
import ODataBrowser.Column.Type
import ODataBrowser.Fault
import ODataBrowser.Text.Blank
import ODataBrowser.Text.Lowercase
import ODataBrowser.Value.Conversion

/-!
# Field names and literals

A field name in a query may hold the letters and digits of ASCII, underscores, slashes and points.
Everything else is dropped, so no field name can end its place in an expression.

A value in a filter is written according to the type of its column: numbers and truth values bare,
texts between apostrophes with apostrophes inside doubled, and dates as quoted ISO 8601 timestamps in
universal time with milliseconds. A value that the type cannot express is written as `0`, `false` or
`''`. A literal is made of characters, unless it quotes a text with lone surrogates.
-/

namespace ODataBrowser.Query

open Text

/-! ### Field names -/

/-- Whether a field name may hold the character. -/
def isFieldChar (c : Char) : Bool :=
  c.isAlphanum || c == '_' || c == '/' || c == '.'

/-- The text without the characters that a field name may not hold. -/
def sanitized (cs : List Char) : List Char :=
  cs.filter isFieldChar

/-- The field name that a value stands for, empty for null. -/
def sanitizeField : Value → List Char
  | .null => []
  | v => sanitized v.display

/-- The field name that a value stands for, where the text of the value can be written out. -/
def sanitizeFieldOf (v : Value) : Except Fault (List Char) :=
  (v.checkText Value.maxDepth).map fun _ => sanitizeField v

/-! ### Texts -/

/-- Doubles every apostrophe. -/
def escape (cs : List Char) : List Char :=
  cs.flatMap fun c => if c = '\'' then ['\'', '\''] else [c]

/-- Replaces every two apostrophes in a row by one. -/
def unescape : List CodePoint → List CodePoint
  | .char '\'' :: .char '\'' :: rest => .char '\'' :: unescape rest
  | point :: rest => point :: unescape rest
  | [] => []

/-- The text between the apostrophes of a literal; a text that is no literal is left as it is. -/
def unquote (points : List CodePoint) : List CodePoint :=
  match points with
  | .char '\'' :: rest => if rest.getLast? = some (.char '\'') then rest.dropLast else points
  | _ => points

/-- The text that a text literal stands for. -/
def decodeText (t : JsonText) : JsonText :=
  .ofPoints (unescape (unquote t.points))

/-- Doubles every apostrophe of a loosely typed text. A date has parts that can be replaced, but not by texts. -/
def escapeOf : Value → Except Fault JsonText
  | .textual t => .ok (t.mapRuns escape)
  | .date _ | .timestamp _ => .error .wrongKind
  | _ => .error .notText

/-- The text that a loosely typed literal stands for. Of all else, lists have a length and ends, and maps of two
or more entries a length but no ends. -/
def decodeTextOf : Value → Except Fault JsonText
  | .textual t => .ok (decodeText t)
  | .list _ | .map [] | .map [_] => .error .notText
  | .map _ => .error .noSuchKey
  | .scalar _ => .error .wrongKind

/-- The literal of a text. -/
def textLiteral (cs : List Char) : List Char :=
  '\'' :: escape cs ++ ['\'']

/-- A value as a text literal. -/
def encodeString : Value → List Char
  | .bool b => textLiteral (if b then "true".toList else "false".toList)
  | v => textLiteral v.display

/-! ### Numbers -/

/-- The text of a double in a query: integers without a point, others as short as can be read back, and
`0` for what is not finite. -/
def encodeBinary64 (x : Binary64) : List Char :=
  match x.toInt? with
  | some n => Numeral.ofInt n
  | none => if x.isFinite then x.text else ['0']

/-- The text of a decimal in a query: integers without point and exponent, and `0` for what is not
finite. -/
def encodeDecimal (d : Decimal) : Except Fault (List Char) :=
  match d with
  | .finite negative coefficient exponent =>
    if d.isIntegral then
      match Decimal.normalize? coefficient exponent with
      | some (c, e) => .ok (Decimal.integerText negative c e)
      | none => .error .decimalOverflow
    else .ok d.text
  | _ => .ok ['0']

/-- The number that the text of a value reads as, written as a literal. A text that cannot be written out is no
number, but one that is nested too deeply is a fault. -/
def encodeNumeral (v : Value) : Except Fault (List Char) :=
  match v.checkText Value.maxDepth with
  | .ok () =>
    match Numeral.readBinary64 (strip v.display) with
    | some x => .ok (encodeBinary64 x)
    | none => .ok ['0']
  | .error .tooDeep => .error .tooDeep
  | .error _ => .ok ['0']

/-- A value as a numeric literal. -/
def encodeNumber : Value → Except Fault (List Char)
  | .bool b => .ok (if b then ['1'] else ['0'])
  | .int n => (Scalar.int n).checkText.map fun _ => Numeral.ofInt n
  | .decimal d => encodeDecimal d
  | .float x => .ok (encodeBinary64 x)
  | v => encodeNumeral v

/-! ### Truth values -/

/-- The literal of a truth value. -/
def boolLiteral (b : Bool) : List Char :=
  if b then "true".toList else "false".toList

/-- A value as a truth value: a number is true when it is one, a text when it says so. -/
def encodeBoolean : Value → Except Fault (List Char)
  | .bool b => .ok (boolLiteral b)
  | .text s =>
    let word := lowercase (strip s.toList)
    .ok (boolLiteral (word == "true".toList || word == ['1']))
  | .scalar s => if s.isNumeric then (s.compare (.int 1)).map boolLiteral else .ok (boolLiteral false)
  | _ => .ok (boolLiteral false)

/-! ### Dates -/

/-- The text with a final `Z` written as an offset. -/
def expandZulu (cs : List Char) : List Char :=
  match cs.reverse with
  | c :: rest => if c = 'Z' ∨ c = 'z' then rest.reverse ++ "+00:00".toList else cs
  | [] => []

/-- Brings the first fraction of a second to six digits: the first point that stands behind a colon and
two digits and before a digit. `before` holds the characters before the text, nearest first. -/
def sixDigitFraction (before : List Char) : List Char → List Char
  | [] => []
  | c :: rest =>
    let isSecond : Bool := match before with
      | d :: e :: ':' :: _ => isDigit d && isDigit e
      | _ => false
    let digits := rest.takeWhile isDigit
    if c == '.' && isSecond && !digits.isEmpty then
      '.' :: (digits ++ List.replicate 6 '0').take 6 ++ rest.dropWhile isDigit
    else c :: sixDigitFraction (c :: before) rest

/-- The timestamp that a text stands for. -/
def readTimestamp (cs : List Char) : Option Timestamp :=
  Timestamp.ofIso? (sixDigitFraction [] (expandZulu (strip cs)))

/-- The timestamp that a text stands for. A lone surrogate may stand where a date can end, as the mark
between date and time. -/
def textTimestamp (t : JsonText) : Option Timestamp :=
  match t.strip with
  | .string s => readTimestamp s.toList
  | .broken before _ after =>
    if before.length ∈ [7, 8, 10] then
      (after.mapM CodePoint.char?).bind fun cs => readTimestamp (before ++ 'T' :: cs)
    else none

/-- The timestamp that a value stands for: numbers count milliseconds from the epoch. -/
def toTimestamp : Value → Option Timestamp
  | .timestamp t => some t
  | .date d => some (.ofDate d)
  | .int n => Epoch.ofIntMillis? n
  | .float x => Epoch.ofMillis? x
  | .textual t => textTimestamp t
  | _ => none

/-- A timestamp in universal time with milliseconds. The year is not filled up to four digits. -/
def timestampText (t : Timestamp) : List Char :=
  Numeral.ofNat t.date.year ++ '-' :: Numeral.padded 2 t.date.month ++
    '-' :: Numeral.padded 2 t.date.day ++ 'T' :: Numeral.padded 2 t.hour ++
    ':' :: Numeral.padded 2 t.minute ++ ':' :: Numeral.padded 2 t.second ++
    '.' :: Numeral.padded 3 (t.microsecond / 1000) ++ ['Z']

/-- A value as a date literal. -/
def encodeDate (v : Value) : Except Fault (List Char) :=
  match toTimestamp v with
  | none => .ok ['\'', '\'']
  | some t =>
    match t.inZone? 0 with
    | some utc => .ok ('\'' :: timestampText utc ++ ['\''])
    | none => .error .outOfRange

/-! ### All types -/

/-- A value as a text literal, with the lone surrogates of a text. -/
def stringText : Value → Except Fault JsonText
  | .textual t => .ok ((t.mapRuns escape).between ['\''] ['\''])
  | v => (v.checkText Value.maxDepth).map fun _ => .ofChars (encodeString v)

/-- A value as a literal of the given column type; columns without a type are texts. -/
def literalText (v : Value) : Option ColumnType → Except Fault JsonText
  | some .number => (encodeNumber v).map .ofChars
  | some .boolean => (encodeBoolean v).map .ofChars
  | some .date => (encodeDate v).map .ofChars
  | _ => stringText v

end ODataBrowser.Query
