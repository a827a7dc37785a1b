import ODataBrowser.Proofs.Pager.Attempts
import ODataBrowser.Proofs.Pager.Planning

/-!
# What a load does to a pager

A load on a named resource first makes it the active one (`Pager.activate_text`). What it then does to the
pager is one of two things (`Pager.load_cases`): where it fails, the page, the total and the column types
stay and only the status, the last error and the count strategy may change; where it succeeds, the pager is
the one that the page is applied to.
-/

namespace ODataBrowser

open Query

/-! ## The active resource -/

/-- A name can be compared with whatever is the active resource, and equals only itself. -/
theorem Value.compare_text (name : JsonText) (v : Value) :
    ∃ b, (Value.textual name).compare v = .ok b ∧ (b = true ↔ v = .textual name) := by
  cases v with
  | scalar s =>
    refine ⟨(Scalar.textual name).same s, ?_, ?_⟩
    · rw [Value.compare, Scalar.compare_textual]
    · rw [Scalar.textual_same_iff, Value.scalar.injEq]
  | list items => exact ⟨false, by simp [Value.compare], by simp⟩
  | map entries => exact ⟨false, by simp [Value.compare], by simp⟩

namespace Pager

/-- The pager with the named resource as the active one. -/
def onResource (p : Pager) (name : JsonText) : Pager :=
  match p.resource with
  | .textual active => if active = name then p else p.reset (.textual name)
  | _ => p.reset (.textual name)

theorem onResource_of_active {p : Pager} {name : JsonText} (h : p.resource = .textual name) :
    p.onResource name = p := by
  simp only [onResource, h, if_true]

theorem onResource_cases (p : Pager) (name : JsonText) :
    p.resource = .textual name ∧ p.onResource name = p ∨ p.onResource name = p.reset (.textual name) := by
  unfold onResource
  split
  · rename_i active h
    by_cases ha : active = name
    · exact .inl ⟨ha ▸ h, if_pos ha⟩
    · exact .inr (if_neg ha)
  · exact .inr rfl

@[simp] theorem onResource_resource (p : Pager) (name : JsonText) :
    (p.onResource name).resource = .textual name := by
  rcases onResource_cases p name with ⟨h, hp⟩ | hp
  · rw [hp, h]
  · rw [hp]
    rfl

/-- Making a named resource the active one always succeeds. -/
theorem activate_text (p : Pager) (name : JsonText) :
    p.activate (.textual name) = .ok (p.onResource name) := by
  obtain ⟨b, hb, hiff⟩ := Value.compare_text name p.resource
  have hactivate : p.activate (.textual name) = .ok (if b then p else p.reset (.textual name)) := by
    unfold activate
    rw [hb]
    cases b <;> rfl
  rw [hactivate]
  cases b with
  | true => rw [if_pos rfl, onResource_of_active (hiff.1 rfl)]
  | false =>
    rcases onResource_cases p name with ⟨h, -⟩ | h
    · exact absurd (hiff.2 h) (by simp)
    · rw [h]
      rfl

/-! ## The plan -/

/-- All that a plan is made of. -/
theorem plan_eq_ok {p : Pager} {arguments : LoadArguments} {plan : LoadPlan}
    (h : p.plan arguments = .ok plan) :
    ∃ skip, (arguments.skip.orElse (.int 0)).toInt = .ok skip ∧
      (arguments.size.orElse (.int p.defaultSize)).toInt = .ok plan.size ∧
      compileSorts arguments.sorts = .ok plan.orderBy ∧
      compileFilterText p.types arguments.filters = .ok plan.filter ∧
      plan.skip = max skip 0 ∧ plan.asksCount = (!p.initialized || max skip 0 == 0) := by
  obtain ⟨skip, hskip, h⟩ := Fault.exists_of_bind_eq_ok h
  obtain ⟨size, hsize, h⟩ := Fault.exists_of_bind_eq_ok h
  obtain ⟨orderBy, horder, h⟩ := Fault.exists_of_bind_eq_ok h
  obtain ⟨filter, hfilter, h⟩ := Fault.exists_of_bind_eq_ok h
  cases h
  exact ⟨skip, hskip, hsize, horder, hfilter, rfl, rfl⟩

/-! ## The load -/

/-- Loading on a named resource is loading on it as the active one. -/
theorem load_of_name (p : Pager) (session : Session) {arguments : LoadArguments} {name : JsonText}
    (h : arguments.resource = .textual name) (outcomes : List Outcome) :
    p.load session arguments outcomes =
      (p.onResource name).loadActive session arguments outcomes := by
  unfold load
  rw [h, activate_text]

theorem target_eq_ok {arguments : LoadArguments} {name resource : JsonText}
    (h : target arguments = .ok resource) (hname : arguments.resource = .textual name) :
    resource = name := by
  obtain ⟨_, -, h⟩ := Fault.exists_of_bind_eq_ok h
  rw [hname] at h
  exact (Except.ok.inj h).symm

/-- A load either fails over its arguments before it sends anything, or runs its plan. -/
theorem loadActive_cases (p : Pager) (session : Session) {arguments : LoadArguments} {name : JsonText}
    (hname : arguments.resource = .textual name) (outcomes : List Outcome) :
    (∃ fault status, fault.isOfValue = true ∧ p.loadActive session arguments outcomes =
      ⟨.error fault, { p with status }, [], outcomes⟩) ∨
    ∃ plan status, p.plan arguments = .ok plan ∧ p.loadActive session arguments outcomes =
      { p with status }.run session name plan outcomes := by
  unfold loadActive
  cases hplan : p.plan arguments with
  | error fault => exact .inl ⟨fault, p.status, isOfValue_of_plan hplan, rfl⟩
  | ok plan =>
    cases htarget : target arguments with
    | error fault => exact .inl ⟨fault, _, isOfValue_of_target htarget, rfl⟩
    | ok resource =>
      obtain rfl := target_eq_ok htarget hname
      exact .inr ⟨plan, _, rfl, rfl⟩

/-- What the attempts of a load come to for the pager: a fault leaves the page, the total and the types, a
page is applied. -/
theorem conclude_cases (p : Pager) (resource : JsonText) (a : Attempts) :
    (∃ fault status lastError, p.conclude resource a =
      (.error fault, { p.withStrategy a.strategy with status, lastError })) ∨
    ∃ page, a.result = .ok page ∧ p.conclude resource a =
      (.ok (((p.withStrategy a.strategy).apply a.plan.skip a.plan.size page).result resource
        page.total.isSome), (p.withStrategy a.strategy).apply a.plan.skip a.plan.size page) := by
  unfold conclude
  cases a.result with
  | ok page => exact .inr ⟨page, rfl, rfl⟩
  | error fault =>
    refine .inl ?_
    cases fault with
    | request failure => exact ⟨_, _, _, rfl⟩
    | _ => exact ⟨_, p.status, p.lastError, rfl⟩

end Pager

/-- The page that a load has read: that of the answer to its last request. -/
def Load.page? (load : Load) (outcomes : List Outcome) : Option Page := do
  let last ← load.sent.getLast?
  (Page.ofOutcome (outcomeAt outcomes (load.sent.length - 1)) last.url).toOption

namespace Pager

/-- A run concludes its attempts. Whether it has tried again shows in the status while they go on. -/
theorem exists_run_eq (p : Pager) (session : Session) (name : JsonText) (plan : LoadPlan)
    (outcomes : List Outcome) :
    let a := attempts session name p.defaultSize plan p.strategy outcomes
    ∃ status, (status = p.status ∨ status = .retrying) ∧ p.run session name plan outcomes =
      ⟨({ p with status }.conclude name a).1, ({ p with status }.conclude name a).2, a.sent, a.pending⟩ := by
  intro a
  obtain ⟨status, hstatus, htried⟩ : ∃ status, (status = p.status ∨ status = .retrying) ∧
      (if a.strategy = p.strategy then p else { p with status := .retrying }) = { p with status } := by
    split
    · exact ⟨p.status, .inl rfl, rfl⟩
    · exact ⟨.retrying, .inr rfl, rfl⟩
  refine ⟨status, hstatus, ?_⟩
  rw [← htried]
  rfl

theorem run_cases (p : Pager) (session : Session) (name : JsonText) (plan : LoadPlan)
    (outcomes : List Outcome) :
    let run := p.run session name plan outcomes
    (∃ fault strategy status lastError, run.result = .error fault ∧
      run.pager = { p.withStrategy strategy with status, lastError }) ∨
    ∃ strategy size page, run.page? outcomes = some page ∧
      run.result = .ok (run.pager.result name page.total.isSome) ∧
      run.pager = (p.withStrategy strategy).apply plan.skip size page := by
  intro run
  let a := attempts session name p.defaultSize plan p.strategy outcomes
  obtain ⟨status, hrun⟩ : ∃ status, run = ⟨({ p with status }.conclude name a).1,
      ({ p with status }.conclude name a).2, a.sent, a.pending⟩ :=
    (p.exists_run_eq session name plan outcomes).imp fun _ h => h.2
  rcases { p with status }.conclude_cases name a with ⟨fault, status, lastError, h⟩ | ⟨page, hpage, h⟩
  · rw [hrun, h]
    exact .inl ⟨fault, a.strategy, status, lastError, rfl, rfl⟩
  · obtain ⟨n, url, hlength, hlast, houtcome⟩ := attempts_sent_of_page session name p.defaultSize hpage
    obtain ⟨m, -, -, -, heq⟩ := attempts_eq session name p.defaultSize plan p.strategy outcomes
    obtain ⟨size, hplan⟩ := plan.exists_again_iterate_eq p.defaultSize m
    have hskip : a.plan.skip = plan.skip := by
      rw [show a.plan = _ from congrArg Attempts.plan heq, hplan]
    rw [hrun, h, hskip]
    refine .inr ⟨a.strategy, a.plan.size, page, ?_, rfl, rfl⟩
    have hlast : a.sent.getLast? = some (session.dataRequest url) := hlast
    have hlength : a.sent.length = n + 1 := hlength
    have hurl : (session.dataRequest url).url = url := rfl
    simp [Load.page?, hlast, hlength, hurl, houtcome, Except.toOption]

/-- **All that a load can do to the pager.** -/
theorem load_cases (p : Pager) (session : Session) {arguments : LoadArguments} {name : JsonText}
    (hname : arguments.resource = .textual name) (outcomes : List Outcome) :
    let q := p.onResource name
    let load := p.load session arguments outcomes
    (∃ fault strategy status lastError, load.result = .error fault ∧
      load.pager = { q.withStrategy strategy with status, lastError }) ∨
    ∃ plan strategy size page, q.plan arguments = .ok plan ∧ load.page? outcomes = some page ∧
      load.result = .ok (load.pager.result name page.total.isSome) ∧
      load.pager = (q.withStrategy strategy).apply plan.skip size page := by
  intro q load
  have hload : load = q.loadActive session arguments outcomes := p.load_of_name session hname outcomes
  rcases q.loadActive_cases session hname outcomes with ⟨fault, status, -, h⟩ | ⟨plan, status, hplan, h⟩
  · rw [hload, h]
    exact .inl ⟨fault, q.strategy, status, q.lastError, rfl, rfl⟩
  · rw [hload, h]
    rcases { q with status }.run_cases session name plan outcomes with hfail | ⟨strategy, size, page, hok⟩
    · exact .inl hfail
    · exact .inr ⟨plan, strategy, size, page, hplan, hok⟩

/-- Each request of a load has the URL of the query of one of its attempts. -/
theorem exists_queryAt_of_mem_sent (p : Pager) (session : Session) {arguments : LoadArguments} {name : JsonText}
    (hname : arguments.resource = .textual name) {outcomes : List Outcome} {r : Request}
    (hr : r ∈ (p.load session arguments outcomes).sent) :
    let q := p.onResource name
    ∃ (plan : LoadPlan) (i : Nat), q.plan arguments = .ok plan ∧
      (queryAt q.defaultSize plan q.strategy i).toUrl (resourceUrl session.base name) = .ok r.url := by
  intro q
  rw [p.load_of_name session hname] at hr
  rcases q.loadActive_cases session hname outcomes with ⟨fault, status, -, h⟩ | ⟨plan, status, hplan, h⟩
  · rw [h] at hr
    exact absurd hr List.not_mem_nil
  · rw [h] at hr
    obtain ⟨n, -, -, -, heq⟩ := attempts_eq session name q.defaultSize plan q.strategy outcomes
    have hr : r ∈ (attempts session name q.defaultSize plan q.strategy outcomes).sent := hr
    rw [heq, List.mem_flatMap] at hr
    obtain ⟨i, -, hi⟩ := hr
    exact ⟨plan, i, hplan, toUrl_of_mem_sent hi⟩

/-- Each request of a load has the filter of its plan. -/
theorem exists_query_of_mem_sent (p : Pager) (session : Session) {arguments : LoadArguments}
    {name : JsonText} (hname : arguments.resource = .textual name) {outcomes : List Outcome} {r : Request}
    (hr : r ∈ (p.load session arguments outcomes).sent) :
    ∃ (plan : LoadPlan) (query : PageQuery), (p.onResource name).plan arguments = .ok plan ∧
      query.filter = plan.filter ∧ query.toUrl (resourceUrl session.base name) = .ok r.url := by
  obtain ⟨plan, i, hplan, hurl⟩ := p.exists_queryAt_of_mem_sent session hname hr
  exact ⟨plan, _, hplan, queryAt_filter i, hurl⟩

end Pager

/-! ## A service to load from -/

/-- A session at a root address that shows no credentials. -/
def Session.anonymous (base : String) : Session where
  settings := { serviceUrl := .text base, authentication := .unknown }
  base
  timeout := .ofDecimal false 60 0
  headers := []
  login := none

/-- An answer with a JSON body. -/
def Outcome.json (status : Int) (body : String) : Outcome :=
  .response ⟨status, "", [("Content-Type", .text "application/json")], body⟩

end ODataBrowser
