import ODataBrowser.Gateway.IntegerText
import ODataBrowser.Gateway.Objection
import ODataBrowser.Gateway.PageForm

/-!
# Reading page forms

The body of a page request is a JSON object. Every field has a default; a field that is there must be of its kind.
Integers may also come as the text of one, as a number without fraction, or as a truth value. All fields are read, so
that every invalid one is named and quoted.
-/

namespace ODataBrowser.PageForm

/-- The integer that a value stands for. -/
def integer? : Value → Option Int
  | .int n => some n
  | .bool b => some (if b then 1 else 0)
  | .float x => x.toInt?.filter fun n => -twoPow 63 < n && n < twoPow 63
  | .text s => IntegerText.read? s.toList
  | _ => none

/-- The order of a sort: a text, or an integer. -/
def order? : Option Value → Option Value
  | none => some (.int 1)
  | some (.textual t) => some (.textual t)
  | some v => (integer? v).map .int

/-- The offset of the page, which is not negative. -/
def skip? (body : List (Scalar × Value)) : Option {n : Int // 0 ≤ n} :=
  match Value.lookup? body "skip" with
  | none => some ⟨0, by decide⟩
  | some v => do
    let n ← integer? v
    if h : 0 ≤ n then some ⟨n, h⟩ else none

/-- The page size, which is positive where it is given. -/
def size? (body : List (Scalar × Value)) : Option {size : Option Int // ∀ n ∈ size, 1 ≤ n} :=
  match Value.lookup? body "page_size" with
  | none | some .null => some ⟨none, nofun⟩
  | some v => do
    let n ← integer? v
    if h : 1 ≤ n then some ⟨some n, by simpa using h⟩ else none

/-- A column of the list of sorts. -/
def sortItem? : Value → Option SortItem
  | .map entries =>
    match Value.lookup? entries "field" with
    | some (.textual field) => (order? (Value.lookup? entries "order")).map (⟨field, ·⟩)
    | _ => none
  | _ => none

/-- The list of sorts. -/
def sortItems? (body : List (Scalar × Value)) : Option (List SortItem) :=
  match Value.lookup? body "multi_sort_meta" with
  | none | some .null => some []
  | some (.list items) => items.mapM sortItem?
  | _ => none

/-- The field of the single sort. -/
def sortField? (body : List (Scalar × Value)) : Option (Option JsonText) :=
  match Value.lookup? body "sort_field" with
  | none | some .null => some none
  | some (.textual field) => some (some field)
  | _ => none

/-- A condition: its value, and its match mode if that is a text or null. -/
def filterItem? : Value → Option FilterItem
  | .map entries =>
    let value := (Value.map entries).field "value"
    let mode := (Value.lookup? entries "matchMode").getD ((Value.map entries).field "match_mode")
    match mode with
    | .null | .textual _ => some ⟨value, mode⟩
    | _ => none
  | _ => none

/-- What a field is filtered by. -/
def fieldFilter? : Value → Option FieldFilter
  | .list items => (items.mapM filterItem?).map .items
  | item => (filterItem? item).map .item

/-- A field with what it is filtered by. -/
def namedFilter? : Scalar × Value → Option (JsonText × FieldFilter)
  | (.textual field, v) => (fieldFilter? v).map (field, ·)
  | _ => none

/-- The filters. -/
def filters? (body : List (Scalar × Value)) : Option (List (JsonText × FieldFilter)) :=
  match Value.lookup? body "filters" with
  | none | some .null => some []
  | some (.map entries) => entries.mapM namedFilter?
  | _ => none

/-! ### What is wrong -/

/-- What is wrong with a column of a list of sorts: all of it where it names no field. -/
def wrongInSortItem : Value → List Value
  | .map entries =>
    let field := match Value.lookup? entries "field" with
      | none => [.map entries]
      | some (.textual _) => []
      | some v => [v]
    field ++ (Value.lookup? entries "order").toList.filter fun v => (order? (some v)).isNone
  | v => [v]

/-- What is wrong with the list of sorts. -/
def wrongInSorts (body : List (Scalar × Value)) : List Value :=
  match Value.lookup? body "multi_sort_meta" with
  | some (.list items) => items.flatMap wrongInSortItem
  | some v => [v]
  | none => []

/-- What is wrong with the filters. -/
def wrongInFilters (body : List (Scalar × Value)) : List Value :=
  match Value.lookup? body "filters" with
  | some (.map entries) => (entries.filter fun entry => (namedFilter? entry).isNone).map (·.2)
  | some v => [v]
  | none => []

/-- The objection to a field, unless it is valid. -/
def objectionTo (name : String) (isValid : Bool) (wrong : List Value) : List Objection :=
  if isValid then [] else [⟨"body." ++ name, wrong⟩]

/-- The objections to the fields, in the order of the form. -/
def objections (body : List (Scalar × Value)) : List Objection :=
  let value (name : String) : List Value := (Value.lookup? body name).toList
  objectionTo "skip" (skip? body).isSome (value "skip") ++
    objectionTo "page_size" (size? body).isSome (value "page_size") ++
    objectionTo "multi_sort_meta" (sortItems? body).isSome (wrongInSorts body) ++
    objectionTo "sort_field" (sortField? body).isSome (value "sort_field") ++
    objectionTo "sort_order" (order? (Value.lookup? body "sort_order")).isSome (value "sort_order") ++
    objectionTo "filters" (filters? body).isSome (wrongInFilters body)

/-- Reads a form, or objects to the invalid fields of the body. -/
def read (body : Value) : Except (List Objection) PageForm :=
  match body with
  | .map entries =>
    let form := do
      let ⟨skip, skip_nonneg⟩ ← skip? entries
      let ⟨size, one_le_size⟩ ← size? entries
      let sortItems ← sortItems? entries
      let sortField ← sortField? entries
      let sortOrder ← order? (Value.lookup? entries "sort_order")
      let filters ← filters? entries
      return ({ skip, size, sortItems, sortField, sortOrder, filters, skip_nonneg, one_le_size } : PageForm)
    match form with
    | some form => .ok form
    | none => .error (objections entries)
  | _ => .error [⟨"body", [body]⟩]

end ODataBrowser.PageForm
