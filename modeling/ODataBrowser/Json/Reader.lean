import ODataBrowser.Fault
import ODataBrowser.Text.Digit

/-!
# Reading JSON

`Json.read` reads a JSON text. Beside the values of the standard it takes `NaN`, `Infinity` and
`-Infinity`, and surrogates without their partners. Integers are exact, numbers with a fraction or an exponent
become doubles, and of several entries with one name the last value stands in the place of the first. Control
characters in strings, trailing commas and text after the value are errors, and so are an integer with too
many digits and a value that is nested too deeply.
-/

namespace ODataBrowser.Json

/-- Why a text is not read. -/
inductive Malformed where
  /-- It is no JSON text. -/
  | notJson
  /-- An integer has too many digits. -/
  | tooManyDigits
  /-- A list or an object stands inside too many others. -/
  | tooDeep
deriving DecidableEq, Repr

/-- A text of code points, as JSON is read: a string of it may hold lone surrogates. -/
abbrev Source := List CodePoint

/-- Whether the code point is white space between tokens. -/
def isSpace : CodePoint → Bool
  | .char c => c == ' ' || c == '\t' || c == '\n' || c == '\r'
  | .lone _ => false

/-- Whether the code point is a decimal digit. -/
def isDigit : CodePoint → Bool
  | .char c => c.isDigit
  | .lone _ => false

/-- The text behind white space. -/
def skipSpace (cs : Source) : Source :=
  cs.dropWhile isSpace

/-- The number written by four hexadecimal digits. -/
def hexUnit? : Source → Option Nat
  | [.char a, .char b, .char c, .char d] => do
    let high := (← Text.hexDigit? a) * 16 + (← Text.hexDigit? b)
    let low := (← Text.hexDigit? c) * 16 + (← Text.hexDigit? d)
    return high * 256 + low
  | _ => none

/-- The character that a one-letter escape stands for. -/
def shortEscape? : Char → Option Char
  | '"' => some '"'
  | '\\' => some '\\'
  | '/' => some '/'
  | 'b' => some '\x08'
  | 'f' => some '\x0c'
  | 'n' => some '\n'
  | 'r' => some '\r'
  | 't' => some '\t'
  | _ => none

/-- A code point of a string written as an escape, behind the backslash, and the rest. -/
def readEscape : Source → Option (CodePoint × Source)
  | .char 'u' :: rest => do
    let unit ← hexUnit? (rest.take 4)
    let rest := rest.drop 4
    match Text.isHighSurrogate unit, rest with
    | true, .char '\\' :: .char 'u' :: next =>
      match hexUnit? (next.take 4) with
      | some low =>
        if Text.isLowSurrogate low then some (.char (Text.charOfPair unit low), next.drop 4)
        else some (.ofUnit unit, rest)
      | none => some (.ofUnit unit, rest)
    | _, _ => some (.ofUnit unit, rest)
  | .char c :: rest => (shortEscape? c).map fun d => (.char d, rest)
  | _ => none

/-- Reads a string behind its opening quotation mark, in at most `fuel` steps. -/
def readStringTail : (fuel : Nat) → Source → Except Malformed (List CodePoint × Source)
  | fuel + 1, point :: rest =>
    if point = .char '"' then .ok ([], rest)
    else if point = .char '\\' then
      match readEscape rest with
      | some (point, rest) => do
        let (points, rest) ← readStringTail fuel rest
        return (point :: points, rest)
      | none => .error .notJson
    else if point.code < 0x20 then .error .notJson
    else do
      let (points, rest) ← readStringTail fuel rest
      return (point :: points, rest)
  | _, _ => .error .notJson

/-- Reads a string of at most `fuel` code points behind its opening quotation mark. -/
def readString (fuel : Nat) (cs : Source) : Except Malformed (JsonText × Source) := do
  let (points, rest) ← readStringTail (fuel + 1) cs
  return (.ofPoints points, rest)

/-- The number with the given decimal digits. -/
def natOfAscii (digits : List Char) : Nat :=
  digits.foldl (fun n c => 10 * n + (c.toNat - 48)) 0

/-- The digits at the start of the text, and the rest. -/
def splitDigits (cs : Source) : List Char × Source :=
  ((cs.takeWhile isDigit).filterMap CodePoint.char?, cs.dropWhile isDigit)

/-- The digits at the start of the text, of which there has to be one, and the rest. -/
def readDigits (cs : Source) : Option (List Char × Source) :=
  let (digits, rest) := splitDigits cs
  if digits.isEmpty then none else some (digits, rest)

/-- The digits of a whole number without superfluous zeros, and the rest. -/
def readWhole : Source → Option (List Char × Source)
  | .char '0' :: rest => some (['0'], rest)
  | cs => readDigits cs

/-- The digits behind a point, if a digit follows it, and the rest. -/
def readFraction : Source → Option (List Char × Source)
  | .char '.' :: rest => readDigits rest
  | _ => none

/-- The exponent, if a digit follows its mark and sign, and the rest. -/
def readExponent : Source → Option (Int × Source)
  | .char mark :: rest =>
    if mark = 'e' ∨ mark = 'E' then
      let (negative, rest) := match rest with
        | .char '-' :: rest => (true, rest)
        | .char '+' :: rest => (false, rest)
        | rest => (false, rest)
      (readDigits rest).map fun (digits, rest) =>
        let n : Int := natOfAscii digits
        (if negative then -n else n, rest)
    else none
  | _ => none

/-- Reads a number. -/
def readNumber (cs : Source) : Except Malformed (Value × Source) :=
  let (negative, rest) := match cs with
    | .char '-' :: rest => (true, rest)
    | _ => (false, cs)
  match readWhole rest with
  | none => .error .notJson
  | some (whole, rest) =>
    let fraction := readFraction rest
    let rest := (fraction.map (·.2)).getD rest
    let exponent := readExponent rest
    let rest := (exponent.map (·.2)).getD rest
    if fraction.isNone && exponent.isNone then
      if Numeral.maxDigits < whole.length then .error .tooManyDigits
      else
        let n : Int := natOfAscii whole
        .ok (.int (if negative then -n else n), rest)
    else
      let behind := (fraction.map (·.1)).getD []
      let power := (exponent.map (·.1)).getD 0
      .ok (.float (.ofDecimal negative (natOfAscii (whole ++ behind)) (power - behind.length)), rest)

/-- The words that stand for values. -/
def words : List (String × Value) := [
  ("null", .null), ("true", .bool true), ("false", .bool false), ("NaN", .float .nan),
  ("Infinity", .float (.infinite false)), ("-Infinity", .float (.infinite true))]

/-- Reads a word or a number. -/
def readAtom (cs : Source) : Except Malformed (Value × Source) :=
  match words.find? fun word => (word.1.toList.map .char).isPrefixOf cs with
  | some (word, v) => .ok (v, cs.drop word.length)
  | none => readNumber cs

/-- Puts a field into an object: a name that is there keeps its place and gets the value. -/
def putField (fields : List (Scalar × Value)) (name : JsonText) (v : Value) : List (Scalar × Value) :=
  if fields.any (·.1 == .textual name) then
    fields.map fun field => if field.1 == .textual name then (field.1, v) else field
  else fields ++ [(.textual name, v)]

mutual

/-- Reads a value at the start of the text, with room for the given number of lists and objects around each
other. -/
def readValue : (fuel room : Nat) → Source → Except Malformed (Value × Source)
  | 0, _, _ => .error .notJson
  | fuel + 1, room, cs =>
    match cs with
    | .char '"' :: rest => do
      let (t, rest) ← readString fuel rest
      return (.textual t, rest)
    | .char '[' :: rest =>
      match room, skipSpace rest with
      | 0, _ => .error .tooDeep
      | _ + 1, .char ']' :: rest => .ok (.list [], rest)
      | room + 1, rest => do
        let (items, rest) ← readItems fuel room rest
        return (.list items, rest)
    | .char '\x7b' :: rest =>
      match room, skipSpace rest with
      | 0, _ => .error .tooDeep
      | _ + 1, .char '\x7d' :: rest => .ok (.map [], rest)
      | room + 1, rest => do
        let (fields, rest) ← readFields fuel room [] rest
        return (.map fields, rest)
    | _ => readAtom cs

/-- Reads the items of a list up to its closing bracket. -/
def readItems : (fuel room : Nat) → Source → Except Malformed (List Value × Source)
  | 0, _, _ => .error .notJson
  | fuel + 1, room, cs => do
    let (v, rest) ← readValue fuel room cs
    match skipSpace rest with
    | .char ']' :: rest => return ([v], rest)
    | .char ',' :: rest =>
      let (items, rest) ← readItems fuel room (skipSpace rest)
      return (v :: items, rest)
    | _ => .error .notJson

/-- Reads the fields of an object up to its closing brace, behind the given ones. -/
def readFields : (fuel room : Nat) → List (Scalar × Value) → Source →
    Except Malformed (List (Scalar × Value) × Source)
  | 0, _, _, _ => .error .notJson
  | fuel + 1, room, fields, cs =>
    match cs with
    | .char '"' :: rest => do
      let (name, rest) ← readString fuel rest
      match skipSpace rest with
      | .char ':' :: rest =>
        let (v, rest) ← readValue fuel room (skipSpace rest)
        let fields := putField fields name v
        match skipSpace rest with
        | .char '\x7d' :: rest => return (fields, rest)
        | .char ',' :: rest => readFields fuel room fields (skipSpace rest)
        | _ => .error .notJson
      | _ => .error .notJson
    | _ => .error .notJson

end

/-- How many lists and objects may stand around each other. -/
def maxDepth : Nat := 985

/-- Reads a JSON text of code points. Every nested value takes up one, so the length of the text bounds the
depth of the reading. -/
def readSource (cs : Source) : Except Malformed Value := do
  let (v, rest) ← readValue (2 * cs.length + 1) maxDepth (skipSpace cs)
  if (skipSpace rest).isEmpty then return v else .error .notJson

/-- Reads a JSON text. -/
def read (cs : List Char) : Except Malformed Value :=
  readSource (cs.map .char)

/-- The value of a JSON text, none where the text is not read. Only a value that is nested too deeply is a
fault. -/
def read? (s : String) : Except Fault (Option Value) :=
  match read s.toList with
  | .ok v => .ok (some v)
  | .error .tooDeep => .error .tooDeep
  | .error _ => .ok none

end ODataBrowser.Json
