import ODataBrowser.Column.TypeMap
import ODataBrowser.Counting
import ODataBrowser.Service.Page

/-!
# The state of a pager

A pager loads pages of one resource at a time. It remembers the offset and the size of the last page, the
running total, the count strategy, the column types and the rows, until it is reset or switched to another
resource.
-/

namespace ODataBrowser

/-- What a pager is doing or has done last. -/
inductive LoadStatus where
  | idle
  | loading
  /-- Loading again with the next count strategy. -/
  | retrying
  | loaded
  | failed
deriving DecidableEq, Repr

/-- The name of a status. -/
def LoadStatus.name : LoadStatus → String
  | .idle => "idle"
  | .loading => "loading"
  | .retrying => "retrying"
  | .loaded => "loaded"
  | .failed => "failed"

/-- The state of a pager. -/
structure Pager where
  /-- The page size where none is asked for. -/
  defaultSize : Int
  status : LoadStatus := .idle
  /-- The error of the last load, if it failed. -/
  lastError : Option FetchError := none
  /-- The active resource, null before there is one. -/
  resource : Value := .null
  /-- The offset of the last page. -/
  skip : Int := 0
  /-- The size of the last page. -/
  size : Int := defaultSize
  /-- The running total of rows. -/
  total : Int := 0
  /-- Whether a page has been loaded. -/
  initialized : Bool := false
  negotiator : Negotiator
  types : ColumnTypes := []
  /-- The rows of the last page. -/
  rows : List Value := []

/-- A page as it is handed to a table. -/
structure PageResult where
  resource : JsonText
  rows : List Value
  columns : List JsonText
  skip : Int
  size : Int
  total : Int
  strategy : CountStrategy
  types : ColumnTypes
  /-- Whether the response gave the total. -/
  countObserved : Bool

/-- Whether there is nothing beyond the page: it has fewer rows than it could have. -/
def PageResult.exhausted (r : PageResult) : Bool :=
  r.rows.length < r.size

namespace Pager

/-- A new pager. -/
def start (defaultSize : Int) (initial : CountStrategy) : Pager where
  defaultSize
  negotiator := .start initial

/-- A new pager with loosely typed arguments. -/
def ofArguments (pageSize countStrategy : Value) : Except Fault Pager := do
  let size ← pageSize.toInt
  let strategy ← CountStrategy.parse countStrategy none
  return start size strategy

/-- The pager as it was when it was new, for the given resource. -/
def reset (p : Pager) (resource : Value) : Pager :=
  { start p.defaultSize p.negotiator.initial with resource }

/-- Makes a resource the active one: the pager is reset if another one was. -/
def activate (p : Pager) (resource : Value) : Except Fault Pager := do
  if ← resource.compare p.resource then return p else return p.reset resource

/-- The strategy believed to work. -/
def strategy (p : Pager) : CountStrategy :=
  p.negotiator.strategy

/-- The pager with another strategy. -/
def withStrategy (p : Pager) (strategy : CountStrategy) : Pager :=
  { p with negotiator := { p.negotiator with strategy } }

/-- The total after a page at an offset: the one observed; else, on the first page, the number of rows;
else, where no count can be had, at least the end of the page. -/
def totalAfter (p : Pager) (skip : Int) (page : Page) : Int :=
  match page.total with
  | some total => total
  | none =>
    if !p.initialized then page.rows.length
    else if p.strategy = .none then max p.total (skip + page.rows.length)
    else p.total

/-- The pager after a page was loaded. -/
def apply (p : Pager) (skip size : Int) (page : Page) : Pager :=
  { p with
    status := .loaded
    lastError := none
    skip
    size
    total := p.totalAfter skip page
    initialized := true
    types := p.types.observe page.rows
    rows := page.rows }

/-- The page that was loaded last, where `countObserved` tells whether its response gave the total. -/
def result (p : Pager) (resource : JsonText) (countObserved : Bool) : PageResult where
  resource
  rows := p.rows
  columns := columnNames p.rows
  skip := p.skip
  size := p.size
  total := p.total
  strategy := p.strategy
  types := p.types
  countObserved

/-- The pager after a load failed. -/
def fail (p : Pager) (e : FetchError) : Pager :=
  { p with status := .failed, lastError := some e }

end Pager

end ODataBrowser
