import ODataBrowser.Fault
import ODataBrowser.Query.Literal
import ODataBrowser.Text.Blank
import ODataBrowser.Text.Lowercase
import ODataBrowser.Text.Search

/-!
# Sort orders

The `$orderby` option is a list of fields, each with its direction. A direction is given as a word or,
by the convention of tables, as a number whose sign decides.
-/

namespace ODataBrowser.Query

open Text

/-- The direction of a sort. -/
inductive SortDirection where
  | asc
  | desc
deriving DecidableEq, Repr

/-- The name of a direction. -/
def SortDirection.name : SortDirection → String
  | .asc => "asc"
  | .desc => "desc"

/-- Reads a direction: negative numbers and the words for descending, in any case and with white space
around them, mean descending; all else means ascending. -/
def SortDirection.parse : Value → SortDirection
  | .int n => if n < 0 then .desc else .asc
  | .float x => if x.isBelowZero then .desc else .asc
  | .text s =>
    if String.ofList (lowercase (strip s.toList)) ∈ ["desc", "descending", "-1"] then .desc else .asc
  | _ => .asc

/-- A column to sort by. -/
structure SortColumn where
  field : Value
  direction : SortDirection := .asc

/-- The entry of a column in the option, none where its field name is empty. -/
def SortColumn.fragment? (s : SortColumn) : Option (List Char) :=
  let field := sanitizeField s.field
  if field.isEmpty then none else some (field ++ ' ' :: s.direction.name.toList)

/-- The value of the `$orderby` option, none where no column has a field name. -/
def compileOrderBy (sorts : List SortColumn) : Option String :=
  let fragments := sorts.filterMap SortColumn.fragment?
  if fragments.isEmpty then none else some (String.ofList (joinWith [','] fragments))

/-- A column of a list of columns, which may not be missing. The text of its field can be written out. -/
def presentSort : Option SortColumn → Except Fault SortColumn
  | some s => (sanitizeFieldOf s.field).map fun _ => s
  | none => .error .notText

/-- The value of the `$orderby` option for a list of loosely typed columns. -/
def compileSorts (sorts : List (Option SortColumn)) : Except Fault (Option String) :=
  (sorts.mapM presentSort).map compileOrderBy

/-- The columns to sort by: the list if it names any, and else the single one. -/
def chooseSorts {α : Type} (multi : List α) (single : Option α) : List α :=
  if multi.isEmpty then single.toList else multi

end ODataBrowser.Query
