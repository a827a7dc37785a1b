import ODataBrowser.Pager.Basic
import ODataBrowser.Query.Filter
import ODataBrowser.Query.Sort

/-!
# Loading pages

A load makes its resource the active one, compiles the sort order and the filter, and asks for the page.
The first request for a resource, and each for its first page, asks for the total too. Where the service
rejects the counting option, the load steps down to the next count strategy and asks again; each other
failure ends it.
-/

namespace ODataBrowser

open Query

/-- What a page is asked for by, loosely typed. -/
structure LoadArguments where
  resource : Value
  skip : Value := .int 0
  /-- The page size, the default one where it says nothing. -/
  size : Value := .null
  /-- The columns to sort by, of which none may be missing. -/
  sorts : List (Option SortColumn) := []
  filters : List Filter := []
  /-- Whether the caller has tried before. -/
  isRetry : Bool := false

/-- The part of a query that stays the same when the count strategy changes. -/
structure LoadPlan where
  skip : Int
  size : Int
  orderBy : Option String
  filter : Option JsonText
  /-- Whether the total is asked for. -/
  asksCount : Bool
deriving DecidableEq, Repr

namespace LoadPlan

/-- The query of a plan under a count strategy. -/
def query (plan : LoadPlan) (strategy : CountStrategy) : PageQuery where
  top := some plan.size
  skip := some plan.skip
  orderBy := plan.orderBy.map .string
  filter := plan.filter
  count := if plan.asksCount then strategy.parameter? else none

/-- The strategy to try next after a result, if the result is an error that rejects the counting option
of the query. -/
def nextStrategy? (plan : LoadPlan) (strategy : CountStrategy) (result : Except Fault Page) :
    Option CountStrategy :=
  match result with
  | .error (.request (.refused e)) =>
    if plan.asksCount then strategy.afterMessage? e.message.display else none
  | _ => none

theorem stepsLeft_of_nextStrategy? {plan : LoadPlan} {strategy next : CountStrategy}
    {result : Except Fault Page} (h : plan.nextStrategy? strategy result = some next) :
    next.stepsLeft < strategy.stepsLeft := by
  unfold nextStrategy? at h
  split at h
  · split at h
    · exact CountStrategy.stepsLeft_of_afterMessage? h
    · contradiction
  · contradiction

/-- The plan for the next try. A page size of zero stands for the default one. -/
def again (plan : LoadPlan) (defaultSize : Int) : LoadPlan :=
  { plan with size := if plan.size = 0 then defaultSize else plan.size }

end LoadPlan

/-- What the requests of a load came to: the last result, with the plan and the strategy that it was
asked for by. -/
structure Attempts where
  result : Except Fault Page
  plan : LoadPlan
  strategy : CountStrategy
  sent : List Request
  pending : List Outcome

/-- Asks for a page until the result is no rejection of the counting option. -/
def attempts (session : Session) (resource : JsonText) (defaultSize : Int) (plan : LoadPlan)
    (strategy : CountStrategy) (outcomes : List Outcome) : Attempts :=
  let read := session.readPage resource (plan.query strategy) outcomes
  match _h : plan.nextStrategy? strategy read.result with
  | none => ⟨read.result, plan, strategy, read.sent, read.pending⟩
  | some next =>
    let later := attempts session resource defaultSize (plan.again defaultSize) next read.pending
    { later with sent := read.sent ++ later.sent }
termination_by strategy.stepsLeft
decreasing_by exact LoadPlan.stepsLeft_of_nextStrategy? ‹_›

/-- What a load came to, and the pager after it. -/
structure Load where
  result : Except Fault PageResult
  pager : Pager
  sent : List Request
  pending : List Outcome

/-- The error of a load that failed. -/
def FetchError.ofFailure (resource : JsonText) : RequestFailure → FetchError
  | .refused e => ⟨.textual resource, e.status, e.message⟩
  | .transport _ message =>
    ⟨.textual resource, .null, .text (if message.isEmpty then "Transport error" else message)⟩

namespace Pager

/-- The plan of a load on the active resource. -/
def plan (p : Pager) (arguments : LoadArguments) : Except Fault LoadPlan := do
  let skip ← (arguments.skip.orElse (.int 0)).toInt
  let size ← (arguments.size.orElse (.int p.defaultSize)).toInt
  let orderBy ← compileSorts arguments.sorts
  let filter ← compileFilterText p.types arguments.filters
  let offset := max skip 0
  return { skip := offset, size, orderBy, filter, asksCount := !p.initialized || offset == 0 }

/-- The name of the resource of a load, once its filters have been noted. -/
def target (arguments : LoadArguments) : Except Fault JsonText := do
  let _ ← describe arguments.filters
  arguments.resource.toJsonText

/-- The pager and the result after the requests of a load. -/
def conclude (p : Pager) (resource : JsonText) (a : Attempts) : Except Fault PageResult × Pager :=
  let p := p.withStrategy a.strategy
  match a.result with
  | .ok page =>
    let p := p.apply a.plan.skip a.plan.size page
    (.ok (p.result resource page.total.isSome), p)
  | .error (.request failure) =>
    let e := FetchError.ofFailure resource failure
    (.error (.fetch e failure), p.fail e)
  | .error fault => (.error fault, p)

/-- Loads a page that is planned. -/
def run (p : Pager) (session : Session) (resource : JsonText) (plan : LoadPlan) (outcomes : List Outcome) :
    Load :=
  let a := attempts session resource p.defaultSize plan p.strategy outcomes
  let tried := if a.strategy = p.strategy then p else { p with status := .retrying }
  let (result, pager) := tried.conclude resource a
  ⟨result, pager, a.sent, a.pending⟩

/-- Loads a page on the active resource. -/
def loadActive (p : Pager) (session : Session) (arguments : LoadArguments) (outcomes : List Outcome) :
    Load :=
  match p.plan arguments with
  | .error fault => ⟨.error fault, p, [], outcomes⟩
  | .ok plan =>
    let p := { p with status := if arguments.isRetry then .retrying else .loading }
    match target arguments with
    | .error fault => ⟨.error fault, p, [], outcomes⟩
    | .ok resource => p.run session resource plan outcomes

/-- Loads a page. -/
def load (p : Pager) (session : Session) (arguments : LoadArguments) (outcomes : List Outcome) : Load :=
  match p.activate arguments.resource with
  | .error fault => ⟨.error fault, p, [], outcomes⟩
  | .ok p => p.loadActive session arguments outcomes

end Pager

end ODataBrowser
