import ODataBrowser.Proofs.Column.Batches
import ODataBrowser.Proofs.Pager.Run

/-!
# The column types of a run

After any run of loads on a resource that has become the active one, the columns have the types that the rows of the
successful loads give them together, however these rows were cut into pages (`Pager.types_of_loads`). A load that
fails adds none, and a type that is known stays.
-/

namespace ODataBrowser

theorem Load.rows_of_not_ok {load : Load} (h : load.result.isOk = false) : load.rows = [] := by
  unfold rows
  cases hresult : load.result with
  | error fault => rfl
  | ok page => exact absurd (hresult ▸ h) (by simp [Except.isOk, Except.toBool])

/-- The rows of all loads are those of the successful ones. -/
theorem flatMap_rows_filter (loads : List Load) :
    (loads.filter (·.result.isOk)).flatMap Load.rows = loads.flatMap Load.rows := by
  induction loads with
  | nil => rfl
  | cons load loads ih =>
    rw [List.filter_cons, List.flatMap_cons, ← ih]
    split
    · rfl
    · rename_i h
      rw [Load.rows_of_not_ok (by simpa using h), List.nil_append]

namespace Pager

open ColumnTypes

variable (session : Session) {name : JsonText}

/-- A load that fails keeps the types. -/
theorem types_of_failed {p : Pager} (hp : p.resource = .textual name) {call : PageCall}
    (h : (p.loadOf session name call).result.isOk = false) :
    (p.loadOf session name call).pager.types = p.types := by
  rw [loadOf_types session hp, Load.rows_of_not_ok h]
  rfl

theorem type?_after {p : Pager} (hp : p.resource = .textual name) (calls : List PageCall) (key : Scalar) :
    (p.after session name calls).types.type? key =
      (p.types.type? key).or (givenType? ((p.loads session name calls).flatMap Load.rows) key) := by
  rw [after_types session hp, type?_foldl_observe, ← List.flatMap_def]

/-- **The column types of a run.** Rows that are observed in batches have the types that they have together, so that
it does not matter how they are cut. After a run on a resource that has just become the active one, the types are
those of the rows of its successful loads in their order; a failed load leaves the types as they are, and no column
changes its type. -/
theorem types_of_loads (session : Session) (name : JsonText) (p : Pager) (calls : List PageCall) :
    let q := p.reset (.textual name)
    let final := q.after session name calls
    let rows := ((q.loads session name calls).filter (·.result.isOk)).flatMap Load.rows
    (∀ batches : List (List Value), SameMap (batches.foldl observe []) (inferColumnTypes [] batches.flatten)) ∧
    (∀ batches others : List (List Value), batches.flatten = others.flatten →
      SameMap (batches.foldl observe []) (others.foldl observe [])) ∧
    SameMap final.types (inferColumnTypes [] rows) ∧
    (∀ first call rest, calls = first ++ call :: rest →
      ((q.after session name first).loadOf session name call).result.isOk = false →
      (q.after session name (first ++ [call])).types = (q.after session name first).types) ∧
    (∀ first rest, calls = first ++ rest → ∀ key type,
      (q.after session name first).types.type? key = some type → final.types.type? key = some type) := by
  intro q final rows
  have hq : q.resource = .textual name := rfl
  have htypes : final.types = ((q.loads session name calls).map Load.rows).foldl observe [] :=
    after_types session hq calls
  have hrows : rows = ((q.loads session name calls).map Load.rows).flatten := by
    rw [← List.flatMap_def]
    exact flatMap_rows_filter _
  refine ⟨sameMap_foldl_observe, fun batches others hflat => ?_, ?_, ?_, ?_⟩
  · have hothers := sameMap_foldl_observe others
    rw [← hflat] at hothers
    exact (sameMap_foldl_observe batches).trans hothers.symm
  · rw [htypes, hrows]
    exact sameMap_foldl_observe _
  · rintro first call rest - hfail
    rw [after_append]
    exact types_of_failed session (after_resource session hq first) hfail
  · rintro first rest rfl key type hknown
    have hlater := type?_after session (after_resource session hq first) rest key
    rw [hknown, Option.some_or, ← after_append] at hlater
    exact hlater

/-- The price is null at first. A load that fails comes in between, and a column that held a number keeps its type
although a text follows. -/
example :
    let calls : List PageCall := [
      { outcomes := [.json 200 "[\x7b\"Id\": 1, \"Price\": null\x7d, 5]"] },
      { skip := .int 25, outcomes := [.json 500 "down"] },
      { skip := .int 25, outcomes := [.json 200 "[\x7b\"Id\": \"2\", \"Price\": 1.5\x7d]"] }]
    ((start 25 .none).after (.anonymous "https://host/svc") "P" calls).types =
      [(.text "Id", .number), (.text "Price", .number)] := by
  decide +kernel

end Pager

end ODataBrowser
