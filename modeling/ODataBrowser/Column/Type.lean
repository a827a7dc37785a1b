import ODataBrowser.Fault
import ODataBrowser.Text.Digit
import ODataBrowser.Value.Equality

/-!
# Column types

The type of a column decides how filter values are written. A cell is classified by its kind, and a
text that starts like an ISO 8601 timestamp counts as a date. The type of a column is that of the first
cell in it that is not null.
-/

namespace ODataBrowser

/-- The type of a column. -/
inductive ColumnType where
  | string
  | number
  | boolean
  | date
  | object
deriving DecidableEq, Repr

namespace ColumnType

/-- All column types. -/
def all : List ColumnType := [.string, .number, .boolean, .date, .object]

/-- The name of a column type. -/
def name : ColumnType → String
  | .string => "string"
  | .number => "number"
  | .boolean => "boolean"
  | .date => "date"
  | .object => "object"

/-- The column type with the given name. -/
def ofName? (s : String) : Option ColumnType :=
  all.find? (·.name == s)

/-- The column type with a loosely typed name, none where it is null. -/
def read : Value → Except Fault (Option ColumnType)
  | .null => .ok none
  | .text s =>
    match ofName? s with
    | some type => .ok (some type)
    | none => .error .unreadable
  | _ => .error .unreadable

end ColumnType

/-- What a character of a pattern stands for: itself, or any decimal digit. -/
inductive PatternChar where
  | digit
  | exactly (c : Char)

/-- Whether the text starts with the pattern. -/
def startsLike : List PatternChar → List Char → Bool
  | [], _ => true
  | _ :: _, [] => false
  | .digit :: pattern, c :: cs => Text.isDigit c && startsLike pattern cs
  | .exactly d :: pattern, c :: cs => c == d && startsLike pattern cs

/-- The pattern `dddd-dd-ddTdd:dd` at the start of a timestamp. -/
def timestampPattern : List PatternChar :=
  [.digit, .digit, .digit, .digit, .exactly '-', .digit, .digit, .exactly '-', .digit, .digit,
    .exactly 'T', .digit, .digit, .exactly ':', .digit, .digit]

/-- The type of a single cell, none for null. -/
def classify : Value → Option ColumnType
  | .null => none
  | .bool _ => some .boolean
  | .int _ | .float _ | .decimal _ => some .number
  | .date _ | .timestamp _ => some .date
  | .textual t => some (if startsLike timestampPattern t.shown then .date else .string)
  | .list _ | .map _ => some .object

/-- The cell of a row in a column, null where the row is no map or lacks the column. -/
def cell (row : Value) (column : Scalar) : Value :=
  match row with
  | .map entries => ((entries.find? fun entry => entry.1.same column).map (·.2)).getD .null
  | _ => .null

/-- The texts of the keys of a row. -/
def keyTexts : Value → List JsonText
  | .map entries => entries.map fun entry => entry.1.asText
  | _ => []

/-- The rows that a value holds. A text or a map has parts, but none of them is a row with columns. -/
def rowsOf : Value → Except Fault (List Value)
  | .list rows => .ok rows
  | .map _ | .textual _ => .ok []
  | _ => .error .wrongKind

/-- Adds names that are not yet in the list at its end. -/
def addNames (names new : List JsonText) : List JsonText :=
  new.foldl (fun names name => if name ∈ names then names else names ++ [name]) names

/-- The names of all columns that occur in the rows, in the order of their first occurrence. -/
def columnNames (rows : List Value) : List JsonText :=
  addNames [] (rows.flatMap keyTexts)

/-- The type of a column: that of the first cell that is not null. -/
def columnType? (rows : List Value) (column : Scalar) : Option ColumnType :=
  rows.findSome? fun row => classify (cell row column)

/-- Adds keys that are not yet in the list at its end. -/
def addKeys (keys new : List Scalar) : List Scalar :=
  new.foldl (fun keys key => if keys.any (·.same key) then keys else keys ++ [key]) keys

/-- The columns that a value names: the items of a list, the characters of a text, or the keys of a
map. -/
def knownColumns : Value → Except Fault (List Scalar)
  | .list items => items.mapM Value.toKey
  | .textual t => .ok (t.points.map fun point => .textual (.ofPoints [point]))
  | .map entries => .ok (entries.map (·.1))
  | _ => .error .wrongKind

/-- The types of columns, in the order in which they became known. -/
abbrev ColumnTypes := List (Scalar × ColumnType)

/-- The types that a map from columns to the names of their types describes. A column whose type is null has
none. -/
def readTypes : Value → Except Fault ColumnTypes
  | .map entries => do
    let types ← entries.mapM fun (key, v) => (ColumnType.read v).map fun type => (key, type)
    return types.filterMap fun (key, type) => type.map (key, ·)
  | _ => .error .notText

/-- The types that the rows give to the columns. Columns that are null throughout are left out. -/
def typesIn (rows : List Value) (columns : List Scalar) : ColumnTypes :=
  columns.filterMap fun column => (columnType? rows column).map fun type => (column, type)

/-- The types of the known columns and of all that occur in the rows. -/
def inferColumnTypes (known : List Scalar) (rows : List Value) : ColumnTypes :=
  typesIn rows (addKeys (addKeys [] known) ((columnNames rows).map .textual))

end ODataBrowser
