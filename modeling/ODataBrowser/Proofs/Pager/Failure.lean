import ODataBrowser.Proofs.Pager.Loading
import ODataBrowser.Proofs.Service.Answer

/-!
# Loads that fail

A load that fails on the active resource leaves the page as it was (`Pager.load_failed`). It changes the status,
the last error and, by one step for each rejection of a counting option, the count strategy. Its error reports
what the last request came to (`FetchError.Reports`).
-/

namespace ODataBrowser

open Query

/-! ## Errors that report an answer -/

/-- Whether an error says what a request came to. It has the status and the message of an error response. It
names the content type of a response that is not JSON, and has its status where that is 200. Where the transport
failed it has no status, and the message of the transport or one that stands for an empty one. -/
def FetchError.Reports (e : FetchError) : Outcome → Prop
  | .response r =>
    ∃ message, e.message = .textual message ∧
      if 400 ≤ r.status then e.status = .int r.status ∧ ErrorMessage.ofResponse r = .ok message
      else (r.status = 200 → e.status = .int r.status) ∧ ∃ payload, r.payload = .ok payload ∧
        Page.isWrapped payload = true ∧ message = Page.notJsonText payload
  | .failure _ message =>
    e.status = .null ∧ e.message = .text (if message.isEmpty then "Transport error" else message)
  | .unsendable => False

theorem FetchError.reports_ofFailure (resource : JsonText) {failure : RequestFailure} {outcome : Outcome}
    (h : failure.Reports outcome) : (FetchError.ofFailure resource failure).Reports outcome := by
  cases failure with
  | refused e =>
    cases outcome with
    | response r =>
      obtain ⟨message, htext, h⟩ := h
      refine ⟨message, htext, ?_⟩
      by_cases herror : 400 ≤ r.status
      · rw [if_pos herror] at h ⊢
        exact h
      · rw [if_neg herror] at h ⊢
        exact ⟨fun hstatus => hstatus ▸ h.1, h.2⟩
    | failure kind message => exact h.elim
    | unsendable => exact h.elim
  | transport kind message =>
    cases outcome with
    | response r => exact h.elim
    | failure kind' message' =>
      obtain ⟨-, rfl⟩ := h
      exact ⟨rfl, rfl⟩
    | unsendable => exact h.elim

/-- What keeps an answer from being a page is a failure that reports it, or stops the load. -/
theorem Page.failure_or_stop {outcome : Outcome} {url : JsonText} {fault : Fault}
    (h : Page.ofOutcome outcome url = .error fault) :
    (∃ failure, fault = .request failure ∧ failure.Reports outcome) ∨
    fault ∈ [Fault.unsendable, .tooDeep, .notText, .wrongKind, .outOfRange] := by
  rcases Page.ofOutcome_eq_error h with hfailure | ⟨rfl, -⟩ | ⟨r, -, hcases⟩
  · exact .inl hfailure
  · exact .inr (by simp)
  · rcases hcases with ⟨rfl, -⟩ | ⟨-, ⟨rfl, -⟩ | ⟨_, -, ⟨rfl, -⟩ | ⟨rfl, -⟩⟩⟩ <;> exact .inr (by simp)

/-- A request that failed is reported. -/
theorem Page.reports_of_ofOutcome {outcome : Outcome} {url : JsonText} {failure : RequestFailure}
    (h : Page.ofOutcome outcome url = .error (.request failure)) : failure.Reports outcome := by
  rcases Page.failure_or_stop h with ⟨failure', hfault, hreports⟩ | hstop
  · cases hfault
    exact hreports
  · simp at hstop

theorem Page.ofOutcome_ne_fetch (outcome : Outcome) (url : JsonText) (e : FetchError)
    (cause : RequestFailure) : Page.ofOutcome outcome url ≠ .error (.fetch e cause) := by
  intro h
  rcases Page.failure_or_stop h with ⟨_, hfault, -⟩ | hstop
  · cases hfault
  · simp at hstop

/-! ## The load -/

/-- The error of a load that has failed to fetch a page. -/
def Load.fetchError? (load : Load) : Option FetchError :=
  match load.result with
  | .error (.fetch e _) => some e
  | _ => none

theorem Load.exists_cause_of_fetchError? {load : Load} {e : FetchError} (h : load.fetchError? = some e) :
    ∃ cause, load.result = .error (.fetch e cause) := by
  unfold fetchError? at h
  split at h
  · rename_i e' cause hresult
    exact ⟨cause, hresult.trans (by rw [Option.some.inj h])⟩
  · contradiction

namespace Pager

/-- Attempts conclude in a fetch error just if the request for a page has failed. -/
theorem conclude_eq_fetch {p : Pager} {name : JsonText} {a : Attempts} {e : FetchError}
    {cause : RequestFailure} (hne : a.result ≠ .error (.fetch e cause))
    (h : (p.conclude name a).1 = .error (.fetch e cause)) :
    a.result = .error (.request cause) ∧ e = FetchError.ofFailure name cause ∧
      (p.conclude name a).2 = (p.withStrategy a.strategy).fail e := by
  unfold conclude at h ⊢
  cases ha : a.result with
  | ok page => simp [ha] at h
  | error fault =>
    cases fault with
    | request failure =>
      simp only [ha, Except.error.injEq, Fault.fetch.injEq] at h
      obtain ⟨rfl, rfl⟩ := h
      exact ⟨rfl, rfl, rfl⟩
    | fetch e' cause' =>
      simp only [ha, Except.error.injEq] at h
      exact absurd (ha.trans (congrArg Except.error h)) hne
    | _ => simp [ha] at h

variable {p : Pager} {session : Session} {arguments : LoadArguments} {name : JsonText}
  {outcomes : List Outcome} {e : FetchError} {cause : RequestFailure}

/-- **A load that fails leaves the page.** On the active resource it sets the status and the last error, and
steps down once for each request but the last, all of which were rejected for their counting options. Its error
names the resource and reports what the last request came to. -/
theorem load_failed (hname : arguments.resource = .textual name) (hactive : p.resource = .textual name)
    (hfetch : (p.load session arguments outcomes).result = .error (.fetch e cause)) :
    let load := p.load session arguments outcomes
    ∃ (n : Nat) (url : Nat → JsonText),
      load.sent = (List.range (n + 1)).map (fun i => session.dataRequest (url i)) ∧
      load.pager = { p.withStrategy (CountStrategy.down^[n] p.strategy) with
        status := .failed, lastError := some e } ∧
      (∀ i ≤ n, ∃ query : PageQuery, query.toUrl (resourceUrl session.base name) = .ok (url i) ∧
        (i < n → query.count = (CountStrategy.down^[i] p.strategy).parameter?) ∧
        (i < n ↔ Rejects query.count (Page.ofOutcome (outcomeAt outcomes i) (url i)))) ∧
      e.resource = .textual name ∧ e.Reports (outcomeAt outcomes n) := by
  intro load
  have hfetch : load.result = .error (.fetch e cause) := hfetch
  have hload : load = p.loadActive session arguments outcomes := by
    have h := p.load_of_name session hname outcomes
    rwa [onResource_of_active hactive] at h
  rcases p.loadActive_cases session hname outcomes with ⟨fault, status, hvalue, h⟩ | ⟨plan, status, -, h⟩
  · rw [hload, h] at hfetch
    rw [Except.error.inj hfetch] at hvalue
    contradiction
  · let a := attempts session name p.defaultSize plan p.strategy outcomes
    obtain ⟨status', hrun⟩ : ∃ status', load = ⟨({ p with status := status' }.conclude name a).1,
        ({ p with status := status' }.conclude name a).2, a.sent, a.pending⟩ := by
      obtain ⟨status', -, hrun⟩ := { p with status }.exists_run_eq session name plan outcomes
      exact ⟨status', (hload.trans h).trans hrun⟩
    have hconclude : ({ p with status := status' }.conclude name a).1 = .error (.fetch e cause) := by
      rw [← hfetch, hrun]
    rcases attempts_cases session name p.defaultSize plan p.strategy outcomes with
      ⟨i, fault, hnone, hurl⟩ | ⟨n, url, heq, hrequests⟩
    · have hresult : a.result = .error fault := hnone
      rcases PageQuery.fault_of_toUrl hurl with rfl | ⟨rfl, -⟩ <;> simp [conclude, hresult] at hconclude
    · have ha : a = _ := heq
      have hanswer : a.result = Page.ofOutcome (outcomeAt outcomes n) (url n) := by rw [ha]
      obtain ⟨hfailure, he, hpager⟩ :=
        conclude_eq_fetch (hanswer ▸ Page.ofOutcome_ne_fetch _ _ _ _) hconclude
      refine ⟨n, url, ?_, ?_, fun i hi => ?_, ?_, ?_⟩
      · rw [hrun, ha]
      · rw [hrun, hpager, ha]
        rfl
      · obtain ⟨hurl, hrejects⟩ := hrequests i hi
        rw [← @queryAt_count p.defaultSize] at hrejects
        refine ⟨_, hurl, fun hlt => ?_, hrejects⟩
        obtain ⟨option, value, _, hcount, -⟩ := hrejects.1 hlt
        rw [queryAt_count, countAt] at hcount ⊢
        split at hcount
        · rename_i hasks
          rw [if_pos hasks]
        · contradiction
      · rw [he]
        cases cause <;> rfl
      · rw [he]
        exact FetchError.reports_ofFailure name (Page.reports_of_ofOutcome (hanswer ▸ hfailure))

/-- A load that fails after a rejection reports the failure and not the rejection. -/
theorem load_failed_after_rejection :
    let p := (start 25 .count).onResource "P"
    let arguments : LoadArguments := { resource := .text "P" }
    let load := p.load (.anonymous "https://host/svc") arguments
      [.json 400 "$count is not a valid option", .json 500 "down"]
    arguments.resource = .text "P" ∧ p.resource = .text "P" ∧
    ∃ e cause, load.result = .error (.fetch e cause) ∧ load.sent.length = 2 ∧
      load.pager = { p.withStrategy .inlinecount with status := .failed, lastError := some e } ∧
      e.resource = .text "P" ∧ e.Reports (.json 500 "down") := by
  intro p arguments load
  have hname : arguments.resource = .text "P" := rfl
  have hactive : p.resource = .text "P" := rfl
  refine ⟨hname, hactive, ?_⟩
  obtain ⟨e, he⟩ : ∃ e, load.fetchError? = some e := Option.isSome_iff_exists.1 (by decide +kernel)
  obtain ⟨cause, hfetch⟩ := Load.exists_cause_of_fetchError? he
  have hlength : load.sent.length = 2 := by decide +kernel
  obtain ⟨n, url, hsent, hpager, -, hresource, hreports⟩ := load_failed hname hactive hfetch
  obtain rfl : n = 1 := by
    rw [show load.sent = _ from hsent, List.length_map, List.length_range] at hlength
    exact Nat.succ.inj hlength
  exact ⟨e, cause, hfetch, hlength, hpager, hresource, hreports⟩

/-- What a request came to does not always show in the error. A transport that failed without a message has one in
the error, and a response without content has the status of one with content. -/
theorem load_error_differs_from_outcome :
    let p := (start 25 .none).onResource "P"
    let error (outcome : Outcome) := (p.load (.anonymous "https://host/svc")
      { resource := .text "P" } [outcome]).pager.lastError
    (error (.failure .timeout "")).map (·.message.displayText) = some "Transport error" ∧
    (error (.response ⟨204, "No Content", [], ""⟩)).map (·.status.displayText) = some "200" := by
  decide +kernel

end Pager

end ODataBrowser
