import ODataBrowser.Query.Filter
import ODataBrowser.Query.Sort

/-!
# Filters and sorts of a table

Table views keep their filters as a map from fields to one or several entries with a value and a match
mode, and their sorts as a list of entries with a field and an order.
-/

namespace ODataBrowser.Query

/-- The filter of an entry, none where the entry is no map. -/
def entryFilter? (field : Scalar) : Value → Option Filter
  | .map entries =>
    let mode := (Value.lookup? entries "matchMode").getD ((Value.map entries).field "match_mode")
    some ⟨.scalar field, (Value.map entries).field "value", mode⟩
  | _ => none

/-- The filters of the entries of a field. -/
def filtersOfField (field : Scalar) : Value → List Filter
  | .list entries => entries.filterMap (entryFilter? field)
  | entry => (entryFilter? field entry).toList

/-- The filters that the table metadata describe. -/
def filtersFromTable (metadata : Value) : Except Fault (List Filter) :=
  match metadata with
  | .map entries => .ok (entries.flatMap fun (field, v) => filtersOfField field v)
  | v => if v.isPresent then .error .notText else .ok []

/-- The sort of an entry, none where the entry is no map. Its field is the text of the given one, where that can be
written out. -/
def entrySort? : Value → Except Fault (Option SortColumn)
  | .map entries => do
    let field := ((Value.map entries).field "field").orElse (.text "")
    let order := (Value.lookup? entries "order").getD (.int 1)
    field.checkText Value.maxDepth
    return some ⟨.textual field.asText, .parse order⟩
  | _ => .ok none

/-- The sorts that the table metadata describe: the list of entries if there are any, and else the
single field. -/
def sortsFromTable (multi field order : Value) : Except Fault (List SortColumn) :=
  if multi.isPresent then
    match multi with
    | .list entries => (entries.mapM entrySort?).map List.reduceOption
    | .map _ | .textual _ => .ok []
    | _ => .error .wrongKind
  else .ok (if field.isPresent then [⟨field, .parse order⟩] else [])

end ODataBrowser.Query
