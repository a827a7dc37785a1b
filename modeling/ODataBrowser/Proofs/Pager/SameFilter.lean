import ODataBrowser.Proofs.Pager.Run
import ODataBrowser.Proofs.Query.Typing

/-!
# The filter of a run

The loads of a run with the same filters send the same filter as long as the rows they load keep the types
that the filters are compiled for (`Pager.filter_of_loads`). Without this they need not: the first page can
tell that a column holds numbers, and the second is then asked for by another filter
(`Pager.filter_changes_with_types`).
-/

namespace ODataBrowser.Pager

open Query

variable {session : Session} {name : JsonText}

theorem loads_onResource (p : Pager) (calls : List PageCall) :
    (p.onResource name).loads session name calls = p.loads session name calls := by
  cases calls with
  | nil => rfl
  | cons call calls =>
    have hname : (call.arguments name).resource = .textual name := rfl
    have hload : (p.onResource name).loadOf session name call = p.loadOf session name call := by
      unfold loadOf
      rw [load_of_name _ session hname, load_of_name _ session hname,
        onResource_of_active (p.onResource_resource name)]
    rw [loads, loads, hload]

/-- The rows of earlier loads of a run come before those of all its loads but the last. -/
theorem exists_flatMap_rows_dropLast (p : Pager) (earlier : List PageCall) (call : PageCall)
    (later : List PageCall) :
    ∃ more, (p.loads session name (earlier ++ call :: later)).dropLast.flatMap Load.rows =
      ((p.loads session name earlier).map Load.rows).flatten ++ more := by
  rw [loads_append, loads, List.dropLast_append_of_ne_nil (List.cons_ne_nil _ _), List.flatMap_append,
    ← List.flatMap_def]
  exact ⟨_, rfl⟩

/-- **One filter for a run.** All requests of a run of loads with the same filters carry the same filter, as
long as the rows loaded before the last load keep the types that the filters were compiled for at first. -/
theorem filter_of_loads {p : Pager} {filters : List Filter} {calls : List PageCall}
    (hfilters : ∀ call ∈ calls, call.filters = filters)
    (hkeeps : ∀ f ∈ filters, f.KeepsType (p.onResource name).types
      ((p.loads session name calls).dropLast.flatMap Load.rows)) :
    ∃ filter, ∀ load ∈ p.loads session name calls, ∀ r ∈ load.sent,
      compileFilterText (p.onResource name).types filters = .ok filter ∧
      ∃ query : PageQuery, query.filter = filter ∧
        query.toUrl (resourceUrl session.base name) = .ok r.url := by
  have hstart := p.onResource_resource name
  rw [← loads_onResource] at hkeeps ⊢
  generalize p.onResource name = q at *
  have hcompiled : ∀ load ∈ q.loads session name calls, ∀ r ∈ load.sent, ∃ query : PageQuery,
      compileFilterText q.types filters = .ok query.filter ∧
        query.toUrl (resourceUrl session.base name) = .ok r.url := by
    intro load hload r hr
    obtain ⟨earlier, call, later, rfl, rfl⟩ := exists_of_mem_loads hload
    have hname : (call.arguments name).resource = .textual name := rfl
    obtain ⟨plan, query, hplan, hquery, hurl⟩ := exists_query_of_mem_sent _ session hname hr
    rw [onResource_of_active (after_resource session hstart earlier)] at hplan
    obtain ⟨_, -, -, -, hfilter, -⟩ := plan_eq_ok hplan
    have hcall : (call.arguments name).filters = filters := hfilters call (by simp)
    obtain ⟨more, hrows⟩ := @exists_flatMap_rows_dropLast session name q earlier call later
    rw [hrows] at hkeeps
    refine ⟨query, ?_, hurl⟩
    rw [hquery, ← hfilter, hcall, after_types session hstart,
      compileFilterText_foldl_observe fun f hf => (hkeeps f hf).of_append]
  cases hfilter : compileFilterText q.types filters with
  | ok filter =>
    refine ⟨filter, fun load hload r hr => ⟨rfl, ?_⟩⟩
    obtain ⟨query, hquery, hurl⟩ := hcompiled load hload r hr
    exact ⟨query, (Except.ok.inj (hfilter.symm.trans hquery)).symm, hurl⟩
  | error fault =>
    refine ⟨none, fun load hload r hr => ?_⟩
    obtain ⟨query, hquery, -⟩ := hcompiled load hload r hr
    exact absurd (hfilter.symm.trans hquery) (by simp)

/-- The first page of texts keeps a filter on them as it is, whatever else it holds. -/
theorem filter_of_loads_of_texts :
    let filters : List Filter := [⟨.text "Name", .text "Row", .null⟩]
    let page : Outcome := .json 200 "[\x7b\"Name\": null, \"Price\": 1\x7d, \x7b\"Name\": \"Row 1\"\x7d]"
    let calls : List PageCall := [
      { filters, outcomes := [page] },
      { skip := .int 25, filters, outcomes := [page] }]
    let loads := (start 25 .count).loads (.anonymous "https://host/svc") "P" calls
    (∀ call ∈ calls, call.filters = filters) ∧
    (∀ f ∈ filters, f.KeepsType ((start 25 .count).onResource "P").types
      (loads.dropLast.flatMap Load.rows)) ∧
    loads.map (·.sent.length) = [1, 1] ∧
    ∃ filter, ∀ load ∈ loads, ∀ r ∈ load.sent, ∃ query : PageQuery, query.filter = filter ∧
      query.toUrl (resourceUrl "https://host/svc" "P") = .ok r.url := by
  intro filters page calls loads
  have hfilters : ∀ call ∈ calls, call.filters = filters := by simp [calls]
  have hkeeps : ∀ f ∈ filters, f.KeepsType ((start 25 .count).onResource "P").types
      (loads.dropLast.flatMap Load.rows) := by
    intro f hf
    obtain rfl := List.mem_singleton.1 hf
    rintro - - key hkey - column hcolumn - type htype
    have hname : column = .textual (.string "Name") := by
      rw [← Except.ok.inj hkey, List.mem_pair] at hcolumn
      exact hcolumn.elim id id
    have hgiven : givenType? (loads.dropLast.flatMap Load.rows) (.textual (.string "Name")) =
        some .string := by decide +kernel
    rw [hname, hgiven] at htype
    exact (Option.some.inj htype).symm
  obtain ⟨filter, h⟩ := @filter_of_loads (.anonymous "https://host/svc") "P" (start 25 .count) filters
    calls hfilters hkeeps
  exact ⟨hfilters, hkeeps, by decide +kernel, filter, fun load hload r hr => (h load hload r hr).2⟩

/-- A page can change the filter of the next one: once it shows that a column holds numbers, the same filter
asks for an equal number and no longer for a text that is contained. -/
theorem filter_changes_with_types :
    let filters : List Filter := [⟨.text "Price", .text "10", .null⟩]
    let page : Outcome := .json 200 "\x7b\"value\": [\x7b\"Price\": 10\x7d]\x7d"
    let calls : List PageCall := [
      { filters, outcomes := [page] },
      { skip := .int 25, filters, outcomes := [page] }]
    let loads := (start 25 .none).loads (.anonymous "https://host/svc") "P" calls
    loads.map (fun load => load.result.toBool) = [true, true] ∧
    loads.map (fun load => load.sent.map (·.url)) = ([
      ["https://host/svc/P?$format=json&$top=25&$filter=substringof('10'%2CPrice)"],
      ["https://host/svc/P?$format=json&$top=25&$skip=25&$filter=Price%20eq%2010"]] : List (List JsonText)) := by
  decide +kernel

end ODataBrowser.Pager
