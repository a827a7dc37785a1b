import ODataBrowser.Column.TypeMap
import ODataBrowser.Query.Literal
import ODataBrowser.Text.Search

/-!
# Filters

The `$filter` option joins one clause per filter by `and`. A filter without a value, without a field
name, or on a column of objects is left out. Where a filter has a text with lone surrogates, so has the option,
which then cannot be part of an address.
-/

namespace ODataBrowser.Query

open Text

/-- How a column is compared with a value. -/
inductive MatchMode where
  | startsWith
  | endsWith
  | contains
  | equals
  | notEquals
deriving DecidableEq, Repr

namespace MatchMode

/-- All match modes. -/
def all : List MatchMode := [.startsWith, .endsWith, .contains, .equals, .notEquals]

/-- The name of a match mode. -/
def name : MatchMode → String
  | .startsWith => "startsWith"
  | .endsWith => "endsWith"
  | .contains => "contains"
  | .equals => "equals"
  | .notEquals => "notEquals"

/-- The match mode with exactly the given name. -/
def ofName? (s : String) : Option MatchMode :=
  all.find? (·.name == s)

/-- Reads a match mode: its name in any case, with white space around it, or `is` for equality. All else
means that the value is contained. -/
def parse : Value → MatchMode
  | .text s =>
    let key := lowercase (strip s.toList)
    if key = "is".toList then .equals
    else (all.find? fun mode => lowercase mode.name.toList == key).getD .contains
  | _ => .contains

/-- The mode that applies to a column: numbers, truth values and dates are only equal or not. -/
def onColumn (mode : MatchMode) : Option ColumnType → MatchMode
  | some .number | some .boolean | some .date =>
    if mode = .notEquals then .notEquals else .equals
  | _ => mode

end MatchMode

/-- A condition on a column. -/
structure Filter where
  field : Value
  value : Value
  mode : Value := .null

/-- Whether a filter has no value. -/
def isEmptyValue : Value → Bool
  | .null => true
  | .textual t => t.isEmpty
  | _ => false

/-- The type of the column of a filter: that of the field as given, or else of its field name. -/
def fieldType (types : ColumnTypes) (field : Value) (name : List Char) :
    Except Fault (Option ColumnType) :=
  field.toKey.map fun key => types.type? key <|> types.type? (.textual (.ofChars name))

/-- The field name and the column type of a filter, none where the filter is left out. -/
def Filter.column? (types : ColumnTypes) (f : Filter) : Except Fault (Option (List Char × Option ColumnType)) := do
  let name := sanitizeField f.field
  if isEmptyValue f.value || name.isEmpty then return none
  let type ← fieldType types f.field name
  if type = some .object then return none
  return some (name, type)

/-- What stands before and behind the literal of a clause. -/
def clauseFrame (field : List Char) : MatchMode → List Char × List Char
  | .startsWith => ("startswith(".toList ++ field ++ [','], [')'])
  | .endsWith => ("endswith(".toList ++ field ++ [','], [')'])
  | .contains => ("substringof(".toList, ',' :: field ++ [')'])
  | .equals => (field ++ " eq ".toList, [])
  | .notEquals => (field ++ " ne ".toList, [])

/-- A condition on a column that takes part in the query. -/
structure Clause where
  field : List Char
  mode : MatchMode
  literal : JsonText
deriving DecidableEq, Repr

/-- The text of a clause. -/
def Clause.text (c : Clause) : JsonText :=
  let frame := clauseFrame c.field c.mode
  c.literal.between frame.1 frame.2

/-- The clause of a filter, none where the filter is left out. -/
def Filter.clause? (types : ColumnTypes) (f : Filter) : Except Fault (Option Clause) := do
  match ← f.column? types with
  | none => return none
  | some (name, type) =>
    let literal ← literalText f.value type
    return some ⟨name, (MatchMode.parse f.mode).onColumn type, literal⟩

/-- The value of the `$filter` option, none where no clause is left. -/
def compileFilterText (types : ColumnTypes) (filters : List Filter) : Except Fault (Option JsonText) := do
  let clauses := (← filters.mapM (·.clause? types)).reduceOption
  if clauses.isEmpty then return none
  return some (.joined ((clauses.map Clause.text).intersperse (.string " and ")))

/-- Puts a value under a key: a key that is there keeps its place. -/
def putEntry (entries : List (Scalar × Value)) (key : Scalar) (v : Value) : List (Scalar × Value) :=
  if entries.any (·.1.same key) then
    entries.map fun entry => if entry.1.same key then (entry.1, v) else entry
  else entries ++ [(key, v)]

/-- The fields and values of the filters that have a value, the last value of a field in the place of
its first. -/
def describeFrom (entries : List (Scalar × Value)) :
    List Filter → Except Fault (List (Scalar × Value))
  | [] => .ok entries
  | f :: rest =>
    if isEmptyValue f.value then describeFrom entries rest
    else do
      let key ← f.field.toKey
      describeFrom (putEntry entries key f.value) rest

/-- The fields and values of the active filters. -/
def describe (filters : List Filter) : Except Fault (List (Scalar × Value)) :=
  describeFrom [] filters

end ODataBrowser.Query
