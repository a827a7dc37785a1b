import ODataBrowser.Query.Table

/-!
# Page forms

A user asks for a page by a form: where the page begins and how long it is, and how the rows are sorted and filtered.
The columns to sort by are a list or a single one, and a field is filtered by one condition or by several. Sorts and
filters are read like those of a table.
-/

namespace ODataBrowser

open Query

namespace PageForm

/-- A column of the list of sorts. -/
structure SortItem where
  field : JsonText
  /-- A text or an integer. -/
  order : Value

/-- A condition on a field. -/
structure FilterItem where
  value : Value
  /-- The match mode: a text or null. -/
  mode : Value

/-- What a field is filtered by. -/
inductive FieldFilter where
  | item (i : FilterItem)
  | items (is : List FilterItem)

/-- A column of the list of sorts as an entry of a table. -/
def SortItem.entry (i : SortItem) : Value :=
  .ofFields [("field", .textual i.field), ("order", i.order)]

/-- A condition as an entry of a table. -/
def FilterItem.entry (i : FilterItem) : Value :=
  .ofFields [("value", i.value), ("matchMode", i.mode)]

/-- The conditions on a field as they stand in a table. -/
def FieldFilter.entries : FieldFilter → Value
  | .item i => i.entry
  | .items is => .list (is.map FilterItem.entry)

end PageForm

/-- What a user asks a page for. -/
structure PageForm where
  skip : Int
  /-- The page size, if the user asks for one. -/
  size : Option Int
  /-- The list of columns to sort by, empty where the form has none. -/
  sortItems : List PageForm.SortItem
  /-- The single column to sort by. -/
  sortField : Option JsonText
  /-- The order of the single column: a text or an integer. -/
  sortOrder : Value
  filters : List (JsonText × PageForm.FieldFilter)
  skip_nonneg : 0 ≤ skip
  one_le_size : ∀ n ∈ size, 1 ≤ n

namespace PageForm

/-- The columns to sort by. -/
def sorts (form : PageForm) : Except Fault (List SortColumn) :=
  sortsFromTable (.list (form.sortItems.map SortItem.entry)) (form.sortField.elim .null .textual) form.sortOrder

/-- The conditions on all fields. -/
def conditions (form : PageForm) : Except Fault (List Filter) :=
  filtersFromTable (.map (form.filters.map fun (field, filter) => (.textual field, filter.entries)))

end PageForm

end ODataBrowser
