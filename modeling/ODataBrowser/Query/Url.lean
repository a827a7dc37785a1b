import ODataBrowser.Fault
import ODataBrowser.Query.Component
import ODataBrowser.Text.Search
import ODataBrowser.Value.Conversion
import ODataBrowser.Value.Equality

/-!
# Query URLs

A page is asked for by a query in a fixed order of options: the format, the page size and offset where
they are positive, the sort order, the filter and the counting option. The values of the sort order and
the filter are percent-encoded. A query has no URL where a number is too long to be written, or where one of
these two texts has a lone surrogate.
-/

namespace ODataBrowser.Query

open Text

/-- What a page is asked for by. -/
structure PageQuery where
  /-- The page size. -/
  top : Option Int := none
  /-- The offset of the page. -/
  skip : Option Int := none
  /-- The sort order. -/
  orderBy : Option JsonText := none
  /-- The filter. -/
  filter : Option JsonText := none
  /-- The counting option and its value. -/
  count : Option (String × String) := none

/-- The numeral of a positive number, which may not be too long. -/
def numberText (n : Int) : Except Fault (List Char) :=
  if tenPow Numeral.maxDigits ≤ n then .error .unreadable else .ok (Numeral.ofInt n)

/-- A numeric option, where it is positive. -/
def numericOption (name : String) : Option Int → Except Fault (List (List Char))
  | some n =>
    if 0 < n then (numberText n).map fun digits => [name.toList ++ '=' :: digits] else .ok []
  | none => .ok []

/-- A text option, where it is not empty. -/
def textOption (name : String) : Option JsonText → Except Fault (List (List Char))
  | some (.string s) => .ok (if s.isEmpty then [] else [name.toList ++ '=' :: encodeComponent s.toList])
  | some (.broken ..) => .error .unencodable
  | none => .ok []

/-- The options of a query. -/
def PageQuery.options (q : PageQuery) : Except Fault (List (List Char)) := do
  let top ← numericOption "$top" q.top
  let skip ← numericOption "$skip" q.skip
  let orderBy ← textOption "$orderby" q.orderBy
  let filter ← textOption "$filter" q.filter
  let count := q.count.map fun (name, value) => name.toList ++ '=' :: value.toList
  return "$format=json".toList :: top ++ skip ++ orderBy ++ filter ++ count.toList

/-- An address with options behind a mark. -/
def withOptions (url : JsonText) (hasQuery : Bool) (options : List (List Char)) : JsonText :=
  url ++ .ofChars ((if hasQuery then '&' else '?') :: joinWith ['&'] options)

/-- The URL that asks for a page of the resource at `url`. -/
def PageQuery.toUrl (q : PageQuery) (url : JsonText) : Except Fault JsonText :=
  q.options.map fun options => withOptions url (url.shown.contains '?') options

/-! ### Queries from loosely typed arguments -/

/-- A loosely typed text with its characters percent-encoded. -/
def encodeComponentOf : Value → Except Fault (List Char)
  | .text s => .ok (encodeComponent s.toList)
  | .textual _ => .error .unencodable
  | _ => .error .wrongKind

/-- A number that may be missing, but not be too long to be written where it is positive. -/
def optionalInt : Value → Except Fault (Option Int)
  | .null => .ok none
  | v => do
    let n ← v.toInt
    let _ ← numericOption "" (some n)
    return some n

/-- A text that may be missing or say nothing, and has no lone surrogate. -/
def optionalText : Value → Except Fault (Option JsonText)
  | .text s => .ok (some s)
  | .textual _ => .error .unencodable
  | v => if v.isPresent then .error .wrongKind else .ok none

/-- The text of the entry with the given number as its key. -/
def textAt (entries : List (Scalar × Value)) (n : Int) : Except Fault String :=
  match entries.find? fun entry => entry.1.same (.int n) with
  | some (_, v) => .ok v.displayText
  | none => .error .noSuchKey

/-- A pair of texts that may be missing: the first two items of a list, or the entries of a map at zero and
one. -/
def optionalPair : Value → Except Fault (Option (String × String))
  | .list (name :: value :: _) => .ok (some (name.displayText, value.displayText))
  | .list [_] => .error .missingPart
  | .text s =>
    match s.toList with
    | [] => .ok none
    | [_] => .error .missingPart
    | c :: d :: _ => .ok (some (String.ofList [c], String.ofList [d]))
  | .map (entry :: rest) => do
    return some (← textAt (entry :: rest) 0, ← textAt (entry :: rest) 1)
  | v => if v.isPresent then .error .wrongKind else .ok none

/-- The query with the given arguments. -/
def PageQuery.ofArguments (top skip orderBy filter count : Value) : Except Fault PageQuery := do
  let top ← optionalInt top
  let skip ← optionalInt skip
  let orderBy ← optionalText orderBy
  let filter ← optionalText filter
  let count ← optionalPair count
  return { top, skip, orderBy, filter, count }

/-- Whether a loosely typed address has a query: a text that holds the mark, a list with the mark as an item, or
a map with the mark as a key. -/
def hasQueryMark : Value → Except Fault Bool
  | .textual t => .ok (t.shown.contains '?')
  | .list items => .ok (items.any fun item => item matches .text "?")
  | .map entries => .ok (Value.lookup? entries "?").isSome
  | _ => .error .wrongKind

/-- The URL that asks for a page of the resource at a loosely typed address. -/
def PageQuery.toUrlAt (q : PageQuery) (address : Value) : Except Fault JsonText := do
  let options ← q.options
  return withOptions address.asText (← hasQueryMark address) options

end ODataBrowser.Query
