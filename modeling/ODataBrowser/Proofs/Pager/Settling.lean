import ODataBrowser.Proofs.Pager.Failure
import ODataBrowser.Proofs.Pager.Requests
import ODataBrowser.Proofs.Service.Decoding

/-!
# Loads that are settled

A load without sort order and filters is settled if it ends in a page or in a fetch error, with the status and
the last error to match. It is settled just if its numbers can be written and its last answer can be taken
(`Pager.load_isSettled_iff`); an answer within the limits of the reader can be (`Response.isTractable_of_limits`).
A body that is like a wrapped one and cannot be shown is beyond them, and leaves the pager as it was while it was
loading (`Pager.load_left_loading`).
-/

namespace ODataBrowser

open Query

/-! ## Answers that can be taken -/

/-- Whether the value of a response can be taken: it gives a total that can be read, or it is wrapped and has a
part that can be shown. -/
def Page.IsTractable (payload : Value) : Prop :=
  if isWrapped payload then ∃ shown, ServiceError.snippet? (payload.field "raw") = some shown
  else ∃ total, Envelope.total payload = .ok total

/-- Whether a response can be taken: the body of an error response can be read for a message, and any other has a
value that can be taken. -/
def Response.IsTractable (r : Response) : Prop :=
  if 400 ≤ r.status then ∃ body, Json.read? r.body = .ok body
  else ∃ payload, r.payload = .ok payload ∧ Page.IsTractable payload

/-- Whether what a request came to can be taken. -/
def Outcome.IsTractable : Outcome → Prop
  | .response r => r.IsTractable
  | .failure _ _ => True
  | .unsendable => False

/-- Whether a result is a page or a failure of the request. -/
def IsPageOrFailure (result : Except Fault Page) : Prop :=
  (∃ page, result = .ok page) ∨ ∃ failure, result = .error (.request failure)

theorem isPageOrFailure_error_iff {fault : Fault} :
    IsPageOrFailure (.error fault) ↔ ∃ failure, fault = .request failure := by
  simp [IsPageOrFailure]

theorem Page.isPageOrFailure_ofPayload_iff (payload : Value) (url : JsonText) :
    IsPageOrFailure (Page.ofPayload payload url) ↔ Page.IsTractable payload := by
  unfold ofPayload IsTractable
  cases isWrapped payload with
  | true =>
    rw [if_pos rfl, if_pos rfl, isPageOrFailure_error_iff]
    rcases notJson_cases payload url with ⟨e, shown, he, -, -, hshown⟩ | ⟨hkind, hshown⟩
    · exact iff_of_true ⟨_, he⟩ ⟨shown, hshown⟩
    · simp [hkind, hshown]
  | false =>
    rw [if_neg Bool.false_ne_true, if_neg Bool.false_ne_true]
    cases htotal : Envelope.total payload with
    | ok total => exact iff_of_true (.inl ⟨_, rfl⟩) ⟨total, rfl⟩
    | error fault =>
      rw [Except.map, isPageOrFailure_error_iff, (Envelope.eq_outOfRange_of_firstCount htotal).1]
      simp

theorem Response.isPageOrFailure_iff (r : Response) (url : JsonText) :
    IsPageOrFailure (Page.ofOutcome (.response r) url) ↔ r.IsTractable := by
  unfold IsTractable
  by_cases herror : 400 ≤ r.status
  · rw [Page.ofOutcome_of_error herror, refusal, ErrorMessage.ofResponse, if_pos herror]
    cases hread : Json.read? r.body with
    | ok body => exact iff_of_true (.inr ⟨_, rfl⟩) ⟨body, rfl⟩
    | error fault =>
      rw [Json.eq_tooDeep_of_read? hread]
      exact isPageOrFailure_error_iff.trans (by simp)
  · rw [Page.ofOutcome_of_no_error herror, if_neg herror]
    cases hpayload : r.payload with
    | ok payload => exact (Page.isPageOrFailure_ofPayload_iff payload url).trans (by simp)
    | error fault =>
      refine isPageOrFailure_error_iff.trans ?_
      rcases payload_eq_error hpayload with ⟨rfl, -⟩ | ⟨rfl, -⟩ <;> simp

theorem Outcome.isPageOrFailure_iff (outcome : Outcome) (url : JsonText) :
    IsPageOrFailure (Page.ofOutcome outcome url) ↔ outcome.IsTractable := by
  cases outcome with
  | response r => exact r.isPageOrFailure_iff url
  | failure kind message => exact iff_of_true (.inr ⟨_, rfl⟩) trivial
  | unsendable => exact isPageOrFailure_error_iff.trans (by simp [IsTractable])

/-! ## Answers within the limits -/

theorem Value.exists_textual_orElse (t u : JsonText) :
    ∃ t', (Value.textual t).orElse (.textual u) = .textual t' := by
  unfold orElse
  split <;> exact ⟨_, rfl⟩

/-- A body that is not JSON can be taken. -/
theorem Page.isTractable_wrapped (r : Response) : Page.IsTractable r.wrapped := by
  unfold IsTractable
  rw [if_pos (show isWrapped r.wrapped = true from rfl)]
  exact Option.isSome_iff_exists.1 (ServiceError.isSome_snippet?_text r.body)

/-- A value that is not like a wrapped one can be taken unless a total is beyond the doubles. -/
theorem Page.isTractable_of_limits {payload : Value} (hwrapped : isWrapped payload = false)
    (hcount : ∀ n, .int n ∈ Envelope.totalFields payload → n.natAbs < 2 ^ 1024 - 2 ^ 970) :
    Page.IsTractable payload := by
  unfold IsTractable
  rw [if_neg (by simp [hwrapped])]
  exact Envelope.exists_total hcount

/-- A response can be taken if its content type is a text and its body is not nested too deeply, is not like a
wrapped one and has no total beyond the doubles. -/
theorem Response.isTractable_of_limits {r : Response} {contentType : JsonText} {body : Option Value}
    (htype : r.contentType = .textual contentType) (hread : Json.read? r.body = .ok body)
    (hwrapped : ∀ v ∈ body, Page.isWrapped v = false)
    (hcount : ∀ v ∈ body, ∀ n, .int n ∈ Envelope.totalFields v → n.natAbs < 2 ^ 1024 - 2 ^ 970) :
    r.IsTractable := by
  have hbody : Page.IsTractable (body.getD r.wrapped) := by
    cases body with
    | none => exact Page.isTractable_wrapped r
    | some v => exact Page.isTractable_of_limits (hwrapped v rfl) (hcount v rfl)
  have hpayload : r.payload = .ok (body.getD r.wrapped) ∨ r.payload = .ok r.wrapped := by
    obtain ⟨t, ht⟩ := Value.exists_textual_orElse contentType (.string "")
    unfold payload Value.toTextOrEmpty
    rw [htype, ht, hread]
    simp only [Value.toText, Except.bind, bind]
    split
    · exact .inl rfl
    · exact .inr rfl
  unfold IsTractable
  split
  · exact ⟨body, hread⟩
  · rcases hpayload with h | h
    · exact ⟨_, h, hbody⟩
    · exact ⟨_, h, Page.isTractable_wrapped r⟩

/-! ## Loads that come to rest -/

/-- Whether a load is settled: it has a page, and the status is that of a load that succeeded, or it has a fetch
error, which is the last error, and the status is that of one that failed. -/
def Load.IsSettled (load : Load) : Prop :=
  (∃ page, load.result = .ok page ∧ load.pager.status = .loaded ∧ load.pager.lastError = none) ∨
  ∃ e cause, load.result = .error (.fetch e cause) ∧ load.pager.status = .failed ∧
    load.pager.lastError = some e

namespace Pager

theorem conclude_isSettled_iff (p : Pager) (name : JsonText) {a : Attempts}
    (hne : ∀ e cause, a.result ≠ .error (.fetch e cause)) :
    Load.IsSettled ⟨(p.conclude name a).1, (p.conclude name a).2, a.sent, a.pending⟩ ↔
      IsPageOrFailure a.result := by
  constructor
  · rintro (⟨page, hresult, -⟩ | ⟨e, cause, hresult, -⟩)
    · rcases p.conclude_cases name a with ⟨fault, _, _, h⟩ | ⟨page, hpage, -⟩
      · rw [h] at hresult
        contradiction
      · exact .inl ⟨page, hpage⟩
    · exact .inr ⟨cause, (conclude_eq_fetch (hne e cause) hresult).1⟩
  · unfold conclude
    rintro (⟨page, hpage⟩ | ⟨failure, hfailure⟩)
    · rw [hpage]
      exact .inl ⟨_, rfl, rfl, rfl⟩
    · rw [hfailure]
      exact .inr ⟨_, failure, rfl, rfl, rfl⟩

/-- Attempts that do not come to rest leave the status as it was. -/
theorem conclude_status_of_not_isSettled (p : Pager) (name : JsonText) {a : Attempts}
    (h : ¬Load.IsSettled ⟨(p.conclude name a).1, (p.conclude name a).2, a.sent, a.pending⟩) :
    (p.conclude name a).2.status = p.status := by
  unfold conclude at h ⊢
  cases hresult : a.result with
  | ok page =>
    rw [hresult] at h
    exact absurd (.inl ⟨_, rfl, rfl, rfl⟩) h
  | error fault =>
    rw [hresult] at h
    cases fault with
    | request failure => exact absurd (.inr ⟨_, failure, rfl, rfl, rfl⟩) h
    | _ => rfl

/-- A load without sort order and filters concludes attempts, which have no URL and have sent nothing, or have sent one
request each. -/
theorem load_plain_cases (p : Pager) (session : Session) (name : JsonText) (skip : Int) (size : Option Int)
    (isRetry : Bool) (outcomes : List Outcome) :
    let q := p.onResource name
    let query := q.queryOf skip size none none
    let load := p.load session (integerArguments name skip size [] [] isRetry) outcomes
    ∃ (status : LoadStatus) (a : Attempts), (status = .loading ∨ status = .retrying) ∧
      load = ⟨({ q with status }.conclude name a).1, ({ q with status }.conclude name a).2, a.sent,
        a.pending⟩ ∧
      (a.result = .error .unreadable ∧ a.sent = [] ∧ ¬(IsWritable (q.sizeFor size) ∧ IsWritable skip) ∨
      IsWritable (q.sizeFor size) ∧ IsWritable skip ∧ ∃ (n : Nat) (url : Nat → JsonText),
        a = ⟨Page.ofOutcome (outcomeAt outcomes n) (url n), q.integerPlan skip size none none,
          CountStrategy.down^[n] q.strategy, (List.range (n + 1)).map fun i => session.dataRequest (url i),
          outcomes.drop (n + 1)⟩ ∧
        ∀ i ≤ n, (query i).toUrl (resourceUrl session.base name) = .ok (url i) ∧
          (i < n ↔ Rejects (query i).count (Page.ofOutcome (outcomeAt outcomes i) (url i)))) := by
  intro q query load
  let plan := q.integerPlan skip size none none
  let a := attempts session name q.defaultSize plan q.strategy outcomes
  have hload : load =
      { q with status := if isRetry then .retrying else .loading }.run session name plan outcomes := by
    have hactive : load = q.loadActive session (integerArguments name skip size [] [] isRetry) outcomes :=
      p.load_of_name session rfl outcomes
    rw [hactive, loadActive, q.plan_integerArguments name skip size isRetry rfl rfl,
      target_integerArguments]
    rfl
  obtain ⟨status, hstatus, hrun⟩ := exists_run_eq
    { q with status := if isRetry then .retrying else .loading } session name plan outcomes
  have hstrings (i : Nat) : (query i).HasStrings :=
    ⟨fun t ht => absurd ht (Option.not_mem_none t), fun t ht => absurd ht (Option.not_mem_none t)⟩
  have hwritable (i : Nat) : (∃ u, (query i).toUrl (resourceUrl session.base name) = .ok u) ↔
      IsWritable (q.sizeFor size) ∧ IsWritable skip := by
    rw [exists_url_queryOf_iff]
    exact and_congr_right fun _ => and_iff_left (hstrings i).2
  refine ⟨status, a, ?_, hload.trans hrun, ?_⟩
  · rcases hstatus with rfl | rfl
    · cases isRetry <;> simp
    · exact .inr rfl
  · rcases attempts_cases session name q.defaultSize plan q.strategy outcomes with
      ⟨i, fault, hresult, hfault⟩ | ⟨n, url, heq, hrequests⟩
    · rw [queryAt_integerPlan] at hfault
      have hnumbers : ¬(IsWritable (q.sizeFor size) ∧ IsWritable skip) := by
        rw [← hwritable i]
        rintro ⟨u, hu⟩
        exact absurd (hfault.symm.trans hu) (by simp)
      have hunreadable : fault = .unreadable :=
        (PageQuery.fault_of_toUrl hfault).resolve_right fun h => h.2 (hstrings i)
      refine .inl ⟨hunreadable ▸ hresult, ?_, hnumbers⟩
      cases hfirst : (query 0).toUrl (resourceUrl session.base name) with
      | ok u => exact absurd ((hwritable 0).1 ⟨u, hfirst⟩) hnumbers
      | error fault => exact (attempts_of_no_url q session name skip size none none outcomes hfirst).1
    · have hcount (i : Nat) : countAt plan q.strategy i = (query i).count := by
        rw [← @queryAt_count q.defaultSize, queryAt_integerPlan]
      simp only [plan, queryAt_integerPlan] at hrequests
      simp only [plan, hcount] at hrequests
      obtain ⟨hsize, hskip⟩ := (hwritable n).1 ⟨_, (hrequests n le_rfl).1⟩
      refine .inr ⟨hsize, hskip, n, url, ?_, hrequests⟩
      rwa [LoadPlan.again_iterate_of_size defaultSize_of_sizeFor] at heq

/-- **When a load is settled.** A load without sort order and filters is settled just if its numbers can be written
and its last answer can be taken. Any other is left loading or trying again. -/
theorem load_isSettled_iff (p : Pager) (session : Session) (name : JsonText) (skip : Int) (size : Option Int)
    (isRetry : Bool) (outcomes : List Outcome) :
    let q := p.onResource name
    let load := p.load session (integerArguments name skip size [] [] isRetry) outcomes
    (load.IsSettled ↔ IsWritable (q.sizeFor size) ∧ IsWritable skip ∧
      (outcomeAt outcomes (load.sent.length - 1)).IsTractable) ∧
    (¬load.IsSettled → load.pager.status = .loading ∨ load.pager.status = .retrying) := by
  intro q load
  obtain ⟨status, a, hstatus, hload, hcases⟩ := p.load_plain_cases session name skip size isRetry outcomes
  have hload : load = _ := hload
  refine ⟨?_, fun h => ?_⟩
  · rw [hload]
    rcases hcases with ⟨hresult, -, hnumbers⟩ | ⟨hsize, hskip, n, url, rfl, -⟩
    · rw [conclude_isSettled_iff _ _ (by simp [hresult]), hresult, isPageOrFailure_error_iff]
      exact iff_of_false (by simp) fun h => hnumbers ⟨h.1, h.2.1⟩
    · rw [conclude_isSettled_iff _ _ (Page.ofOutcome_ne_fetch _ _), Outcome.isPageOrFailure_iff,
        and_iff_right hsize, and_iff_right hskip, List.length_map, List.length_range, Nat.add_sub_cancel]
  · rw [hload] at h ⊢
    rw [conclude_status_of_not_isSettled _ _ h]
    exact hstatus

/-- A body that is like a wrapped one, but has nothing that can be shown, leaves a load loading. -/
theorem load_left_loading :
    let load := (start 25 .none).load (.anonymous "https://host/svc")
      (integerArguments "P" 0 none [] [] false)
      [.json 200 "\x7b\"raw\": 5, \"content_type\": \"text\"\x7d"]
    load.sent.length = 1 ∧ load.pager.status = .loading ∧ ¬load.IsSettled := by
  intro load
  have hstatus : load.pager.status = .loading := by decide +kernel
  refine ⟨by decide +kernel, hstatus, fun hsettled => ?_⟩
  rcases hsettled with ⟨_, -, h, -⟩ | ⟨_, _, -, h, -⟩ <;> exact absurd (hstatus.symm.trans h) (by decide)

end Pager

end ODataBrowser
