import ODataBrowser.Text.Quoted
import ODataBrowser.Value.Display

/-!
# Writing JSON

`Json.write?` writes a value as compact JSON in ASCII. Dates and decimals are written as their texts.
Keys that are numbers, truth values or null become texts; a map with other keys cannot be written.
-/

namespace ODataBrowser.Json

/-- A UTF-16 code unit as an escape. -/
def unitEscape (n : Nat) : List Char :=
  '\\' :: 'u' :: Text.hexText 4 n

/-- A character inside a string. -/
def stringChar (c : Char) : List Char :=
  if c = '"' then ['\\', '"']
  else if c = '\\' then ['\\', '\\']
  else if c = '\n' then ['\\', 'n']
  else if c = '\r' then ['\\', 'r']
  else if c = '\t' then ['\\', 't']
  else if c = '\x08' then ['\\', 'b']
  else if c = '\x0c' then ['\\', 'f']
  else if ' ' ≤ c ∧ c ≤ '~' then [c]
  else
    let n := c.toNat
    if n < 0x10000 then unitEscape n
    else unitEscape (0xD800 + (n - 0x10000) / 1024) ++ unitEscape (0xDC00 + (n - 0x10000) % 1024)

/-- A code point inside a string. -/
def stringPoint : CodePoint → List Char
  | .char c => stringChar c
  | .lone s => unitEscape (CodePoint.lone s).code

/-- A text as a JSON string. -/
def stringText (t : JsonText) : List Char :=
  '"' :: t.points.flatMap stringPoint ++ ['"']

/-- The text of a double. -/
def floatText : Binary64 → List Char
  | .nan => "NaN".toList
  | .infinite negative => (if negative then "-Infinity" else "Infinity").toList
  | x => x.text

/-- A scalar as a JSON value. -/
def scalarText : Scalar → List Char
  | .null => "null".toList
  | .bool b => if b then "true".toList else "false".toList
  | .int n => Numeral.ofInt n
  | .float x => floatText x
  | s => stringText s.asText

/-- The text of a key. -/
def keyText? : Scalar → Option JsonText
  | .textual t => some t
  | .decimal _ | .date _ | .timestamp _ => none
  | s => some (.ofChars (scalarText s))

/-- The texts of parts, with a comma between neighbours. -/
def commaJoined : List (List Char) → List Char
  | [] => []
  | [cs] => cs
  | cs :: rest => cs ++ ',' :: commaJoined rest

mutual

/-- A value as JSON, none where a key cannot be written. -/
def write? : Value → Option (List Char)
  | .scalar s => some (scalarText s)
  | .list items => (writeItems? items).map fun parts => '[' :: commaJoined parts ++ [']']
  | .map entries => (writeEntries? entries).map fun parts => '\x7b' :: commaJoined parts ++ ['\x7d']

/-- The items of a list as JSON. -/
def writeItems? : List Value → Option (List (List Char))
  | [] => some []
  | v :: rest => do
    let part ← write? v
    let parts ← writeItems? rest
    return part :: parts

/-- The entries of a map as JSON. -/
def writeEntries? : List (Scalar × Value) → Option (List (List Char))
  | [] => some []
  | (key, v) :: rest => do
    let name ← keyText? key
    let part ← write? v
    let parts ← writeEntries? rest
    return (stringText name ++ ':' :: part) :: parts

end

end ODataBrowser.Json
