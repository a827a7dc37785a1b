import ODataBrowser.Proofs.Column.Growth
import ODataBrowser.Proofs.Pager.Loading

/-!
# Runs of loads

A run is a list of calls on one resource, each of which loads a page from where the one before left the pager.
Every load of a run is the load of one call on the pager after the calls before it
(`Pager.exists_of_mem_loads`), and the column types after a run are those before it with the rows of its loads
observed (`Pager.after_types`).
-/

namespace ODataBrowser

open Query

/-- A call for a page, with the outcomes that its requests come to. -/
structure PageCall where
  skip : Value := .int 0
  size : Value := .null
  sorts : List (Option SortColumn) := []
  filters : List Filter := []
  isRetry : Bool := false
  outcomes : List Outcome

/-- What a call asks for on the named resource. -/
def PageCall.arguments (call : PageCall) (name : JsonText) : LoadArguments where
  resource := .textual name
  skip := call.skip
  size := call.size
  sorts := call.sorts
  filters := call.filters
  isRetry := call.isRetry

/-- The offset that a call asks for: no negative one, and zero where it says nothing. -/
def PageCall.offset (call : PageCall) : Int :=
  max ((call.skip.orElse (.int 0)).toInt.toOption.getD 0) 0

/-- The rows that a load has loaded, none if it failed. -/
def Load.rows (load : Load) : List Value :=
  match load.result with
  | .ok page => page.rows
  | .error _ => []

namespace Pager

variable (session : Session) (name : JsonText)

/-- The load of a call. -/
def loadOf (p : Pager) (call : PageCall) : Load :=
  p.load session (call.arguments name) call.outcomes

/-- The pager after a run. -/
def after (p : Pager) (calls : List PageCall) : Pager :=
  calls.foldl (fun p call => (p.loadOf session name call).pager) p

/-- The loads of a run. -/
def loads (p : Pager) : List PageCall → List Load
  | [] => []
  | call :: calls => p.loadOf session name call :: (p.loadOf session name call).pager.loads calls

variable {session name}

theorem after_append (p : Pager) (calls more : List PageCall) :
    p.after session name (calls ++ more) = (p.after session name calls).after session name more :=
  List.foldl_append

theorem loads_append (p : Pager) (calls more : List PageCall) :
    p.loads session name (calls ++ more) =
      p.loads session name calls ++ (p.after session name calls).loads session name more := by
  induction calls generalizing p with
  | nil => rfl
  | cons call calls ih => simp only [List.cons_append, loads, ih, after, List.foldl_cons]

/-- Every load of a run is that of one of its calls, on the pager after the calls before it. -/
theorem exists_of_mem_loads {p : Pager} {calls : List PageCall} {load : Load}
    (h : load ∈ p.loads session name calls) :
    ∃ earlier call later, calls = earlier ++ call :: later ∧
      load = (p.after session name earlier).loadOf session name call := by
  induction calls generalizing p with
  | nil => exact absurd h List.not_mem_nil
  | cons call calls ih =>
    rcases List.mem_cons.1 h with rfl | h
    · exact ⟨[], call, calls, rfl, rfl⟩
    · obtain ⟨earlier, call', later, rfl, rfl⟩ := ih h
      exact ⟨call :: earlier, call', later, rfl, rfl⟩

/-! ## One step of a run -/

variable (session)

/-- All that one load of a run can do to the pager. -/
theorem loadOf_cases {p : Pager} (hp : p.resource = .textual name) (call : PageCall) :
    let load := p.loadOf session name call
    (∃ fault strategy status lastError, load.result = .error fault ∧
      load.pager = { p.withStrategy strategy with status, lastError }) ∨
    ∃ strategy size page, load.page? call.outcomes = some page ∧
      load.result = .ok (load.pager.result name page.total.isSome) ∧
      load.pager = (p.withStrategy strategy).apply call.offset size page := by
  intro load
  have hname : (call.arguments name).resource = .textual name := rfl
  have hcases := p.load_cases session hname call.outcomes
  rw [onResource_of_active hp] at hcases
  refine hcases.imp_right ?_
  rintro ⟨plan, strategy, size, page, hplan, hpage, hresult, hpager⟩
  obtain ⟨skip, hskip, -, -, -, hoffset, -⟩ := plan_eq_ok hplan
  have hcall : call.offset = plan.skip := by
    rw [PageCall.offset, show (call.skip.orElse (.int 0)).toInt = .ok skip from hskip, hoffset]
    rfl
  exact ⟨strategy, size, page, hpage, hresult, hcall ▸ hpager⟩

theorem loadOf_resource {p : Pager} (hp : p.resource = .textual name) (call : PageCall) :
    (p.loadOf session name call).pager.resource = .textual name := by
  rcases p.loadOf_cases session hp call with ⟨_, _, _, _, -, h⟩ | ⟨_, _, _, -, -, h⟩
  · exact (congrArg Pager.resource h).trans hp
  · exact (congrArg Pager.resource h).trans hp

/-- A load observes the rows that it has loaded. -/
theorem loadOf_types {p : Pager} (hp : p.resource = .textual name) (call : PageCall) :
    (p.loadOf session name call).pager.types = p.types.observe (p.loadOf session name call).rows := by
  unfold Load.rows
  rcases p.loadOf_cases session hp call with ⟨_, _, _, _, hresult, h⟩ | ⟨_, _, page, -, hresult, h⟩
  · rw [hresult, h]
    rfl
  · rw [hresult, h]
    rfl

theorem after_resource {p : Pager} (hp : p.resource = .textual name) (calls : List PageCall) :
    (p.after session name calls).resource = .textual name := by
  induction calls generalizing p with
  | nil => exact hp
  | cons call calls ih => exact ih (loadOf_resource session hp call)

/-- The types after a run are those before it, with the rows of its loads observed. -/
theorem after_types {p : Pager} (hp : p.resource = .textual name) (calls : List PageCall) :
    (p.after session name calls).types =
      ((p.loads session name calls).map Load.rows).foldl .observe p.types := by
  induction calls generalizing p with
  | nil => rfl
  | cons call calls ih =>
    rw [loads, List.map_cons, List.foldl_cons, ← loadOf_types session hp]
    exact ih (loadOf_resource session hp call)

end Pager

end ODataBrowser
