import Mathlib.Logic.Function.Iterate
import Mathlib.Tactic.Choose
import ODataBrowser.Pager.Load
import ODataBrowser.Proofs.Query.Url

/-!
# The attempts of a load

The attempts of a load differ from one another in the count strategy alone, and each but the last is
rejected. `attempts_eq` says all that they come to: after `n` rejections, with `n` at most the steps that
were left, the result is that of attempt `n`, asked by the strategy `n` steps further down.
-/

namespace ODataBrowser

open Query Text

/-! ## Outcomes in order -/

/-- The outcome of the request with the given number. -/
def outcomeAt (outcomes : List Outcome) (i : Nat) : Outcome :=
  outcomes.getD i (.failure .connection "no response queued")

theorem nextOutcome_drop (outcomes : List Outcome) (i : Nat) :
    nextOutcome (outcomes.drop i) = (outcomeAt outcomes i, outcomes.drop (i + 1)) := by
  rw [← List.drop_drop]
  cases h : outcomes.drop i with
  | nil =>
    have hi : outcomes.length ≤ i := List.drop_eq_nil_iff.1 h
    simp [nextOutcome, outcomeAt, List.getD_eq_getElem?_getD, List.getElem?_eq_none hi]
  | cons outcome rest =>
    have ho : outcomes[i]? = some outcome := by
      rw [← List.head?_drop, h, List.head?_cons]
    simp [nextOutcome, outcomeAt, List.getD_eq_getElem?_getD, ho]

/-! ## Steps down -/

namespace CountStrategy

/-- The strategy one step further down; the last resort stays. -/
def down (strategy : CountStrategy) : CountStrategy :=
  strategy.next?.getD strategy

end CountStrategy

/-- Whether a result rejects the counting option of its request: the service refused the request, and its
message, in lower case, names the option and calls it not valid. -/
def Rejects (count : Option (String × String)) (result : Except Fault Page) : Prop :=
  ∃ option value e, count = some (option, value) ∧ result = .error (.request (.refused e)) ∧
    occurs option.toList (lowercase e.message.display) = true ∧
    occurs "not a valid".toList (lowercase e.message.display) = true

theorem CountStrategy.afterMessage?_eq_some_iff {strategy next : CountStrategy} {message : List Char} :
    strategy.afterMessage? message = some next ↔
      (∃ option value, strategy.parameter? = some (option, value) ∧
        occurs option.toList (lowercase message) = true ∧
        occurs "not a valid".toList (lowercase message) = true) ∧ next = strategy.down := by
  cases hp : strategy.parameter? with
  | none => simp [afterMessage?, isRejectedBy, hp]
  | some pair =>
    obtain ⟨option, value⟩ := pair
    have hn : strategy.next? = some strategy.down := by
      cases strategy with
      | none => simp [parameter?] at hp
      | count => rfl
      | inlinecount => rfl
    simp [afterMessage?, isRejectedBy, hp, hn, eq_comm (a := next)]

namespace LoadPlan

theorem nextStrategy?_eq_some_iff {plan : LoadPlan} {strategy next : CountStrategy}
    {result : Except Fault Page} :
    plan.nextStrategy? strategy result = some next ↔
      Rejects (plan.query strategy).count result ∧ next = strategy.down := by
  unfold nextStrategy? Rejects query
  split
  · rename_i e
    by_cases ha : plan.asksCount = true
    · simp only [ha, if_true, CountStrategy.afterMessage?_eq_some_iff]
      refine and_congr_left fun _ => ?_
      constructor
      · rintro ⟨option, value, hp, hm⟩
        exact ⟨option, value, e, hp, rfl, hm⟩
      · rintro ⟨option, value, e', hp, he, hm⟩
        cases he
        exact ⟨option, value, hp, hm⟩
    · simp [ha]
  · rename_i hr
    simp only [reduceCtorEq, false_iff, not_and]
    rintro ⟨_, _, e, -, he, -⟩
    exact absurd he (hr e)

/-- A plan whose size is not replaced is the plan of every attempt. -/
theorem again_iterate_of_size {plan : LoadPlan} {defaultSize : Int}
    (h : plan.size = 0 → defaultSize = 0) (n : Nat) : (again · defaultSize)^[n] plan = plan := by
  apply Function.iterate_fixed
  by_cases hs : plan.size = 0
  · simp [again, hs, h hs]
    rw [← hs]
  · simp [again, hs]

/-- Trying again changes nothing of a plan but its size. -/
theorem exists_again_iterate_eq (plan : LoadPlan) (defaultSize : Int) (n : Nat) :
    ∃ size, (again · defaultSize)^[n] plan = { plan with size } := by
  induction n generalizing plan with
  | zero => exact ⟨plan.size, rfl⟩
  | succ n ih =>
    obtain ⟨size, h⟩ := ih (plan.again defaultSize)
    exact ⟨size, by rw [Function.iterate_succ_apply, h]; rfl⟩

end LoadPlan

/-! ## One attempt -/

theorem Session.readPage_of_url (session : Session) {resource url : JsonText} {query : PageQuery}
    (h : query.toUrl (resourceUrl session.base resource) = .ok url) (outcomes : List Outcome) (i : Nat) :
    session.readPage resource query (outcomes.drop i) =
      ⟨Page.ofOutcome (outcomeAt outcomes i) url, [session.dataRequest url], outcomes.drop (i + 1)⟩ := by
  simp only [readPage, h, nextOutcome_drop]

theorem Session.readPage_of_no_url (session : Session) {resource : JsonText} {query : PageQuery}
    {fault : Fault} (h : query.toUrl (resourceUrl session.base resource) = .error fault)
    (outcomes : List Outcome) :
    session.readPage resource query outcomes = ⟨.error fault, [], outcomes⟩ := by
  simp only [readPage, h]

/-- A request that is rejected was sent. -/
theorem Session.exists_url_of_rejects {session : Session} {resource : JsonText} {query : PageQuery}
    {outcomes : List Outcome} {count : Option (String × String)}
    (h : Rejects count (session.readPage resource query outcomes).result) :
    ∃ url, query.toUrl (resourceUrl session.base resource) = .ok url := by
  cases hu : query.toUrl (resourceUrl session.base resource) with
  | ok url => exact ⟨url, rfl⟩
  | error fault =>
    rw [readPage_of_no_url session hu] at h
    obtain ⟨_, _, e, -, he, -⟩ := h
    obtain rfl := Except.error.inj he
    rcases PageQuery.fault_of_toUrl hu with hfault | ⟨hfault, -⟩ <;> contradiction

/-! ## The closed form -/

variable (session : Session) (resource : JsonText) (defaultSize : Int)

/-- The query of attempt `i`. -/
def queryAt (plan : LoadPlan) (strategy : CountStrategy) (i : Nat) : PageQuery :=
  ((LoadPlan.again · defaultSize)^[i] plan).query (CountStrategy.down^[i] strategy)

/-- The counting option of attempt `i`. -/
def countAt (plan : LoadPlan) (strategy : CountStrategy) (i : Nat) : Option (String × String) :=
  if plan.asksCount then (CountStrategy.down^[i] strategy).parameter? else none

/-- Attempt `i` of a load, if all before it were rejected. -/
def attemptAt (plan : LoadPlan) (strategy : CountStrategy) (outcomes : List Outcome) (i : Nat) :
    Exchange Page :=
  session.readPage resource (queryAt defaultSize plan strategy i) (outcomes.drop i)

variable {session resource defaultSize} {plan : LoadPlan} {strategy : CountStrategy}
  {outcomes : List Outcome}

theorem queryAt_filter (i : Nat) : (queryAt defaultSize plan strategy i).filter = plan.filter := by
  obtain ⟨size, h⟩ := plan.exists_again_iterate_eq defaultSize i
  rw [queryAt, h]
  rfl

theorem queryAt_count (i : Nat) :
    (queryAt defaultSize plan strategy i).count = countAt plan strategy i := by
  obtain ⟨size, h⟩ := plan.exists_again_iterate_eq defaultSize i
  rw [queryAt, h]
  rfl

/-- An attempt whose query has a URL sends one request and uses up one outcome. -/
theorem attemptAt_of_url {i : Nat} {url : JsonText}
    (h : (queryAt defaultSize plan strategy i).toUrl (resourceUrl session.base resource) = .ok url) :
    attemptAt session resource defaultSize plan strategy outcomes i =
      ⟨Page.ofOutcome (outcomeAt outcomes i) url, [session.dataRequest url], outcomes.drop (i + 1)⟩ :=
  session.readPage_of_url h outcomes i

/-- Each request of an attempt has the URL of its query. -/
theorem toUrl_of_mem_sent {i : Nat} {r : Request}
    (h : r ∈ (attemptAt session resource defaultSize plan strategy outcomes i).sent) :
    (queryAt defaultSize plan strategy i).toUrl (resourceUrl session.base resource) = .ok r.url := by
  cases hu : (queryAt defaultSize plan strategy i).toUrl (resourceUrl session.base resource) with
  | ok url =>
    rw [attemptAt_of_url hu, List.mem_singleton] at h
    rw [h]
    rfl
  | error fault =>
    rw [attemptAt, session.readPage_of_no_url hu] at h
    exact absurd h List.not_mem_nil

/-- Attempts whose queries have URLs send one request each. -/
theorem flatMap_sent_eq_map {n : Nat} {url : Nat → JsonText}
    (h : ∀ i < n, (queryAt defaultSize plan strategy i).toUrl (resourceUrl session.base resource) =
      .ok (url i)) :
    ((List.range n).flatMap fun i =>
        (attemptAt session resource defaultSize plan strategy outcomes i).sent) =
      (List.range n).map fun i => session.dataRequest (url i) := by
  induction n with
  | zero => rfl
  | succ n ih =>
    rw [List.range_succ, List.flatMap_append, List.map_append,
      ih fun i hi => h i (Nat.lt_succ_of_lt hi)]
    simp [attemptAt_of_url (h n (Nat.lt_succ_self n))]

variable (session resource defaultSize)

theorem attemptAt_again (plan : LoadPlan) (strategy : CountStrategy) (outcomes : List Outcome)
    (i : Nat) :
    attemptAt session resource defaultSize (plan.again defaultSize) strategy.down (outcomes.drop 1) i =
      attemptAt session resource defaultSize plan strategy outcomes (i + 1) := by
  simp only [attemptAt, queryAt, Function.iterate_succ_apply, List.drop_drop, Nat.add_comm 1]

/-- An attempt whose answer does not make the load step down is the last. -/
theorem attempts_of_settled {plan : LoadPlan} {strategy : CountStrategy} {outcomes : List Outcome}
    (h : plan.nextStrategy? strategy (session.readPage resource (plan.query strategy) outcomes).result = none) :
    let read := session.readPage resource (plan.query strategy) outcomes
    attempts session resource defaultSize plan strategy outcomes =
      ⟨read.result, plan, strategy, read.sent, read.pending⟩ := by
  rw [attempts]
  split
  · rfl
  · rename_i hnext
    exact absurd (h.symm.trans hnext) (by simp)

/-- An attempt that is rejected is followed by the attempts by the next strategy. -/
theorem attempts_of_rejected {plan : LoadPlan} {strategy next : CountStrategy} {outcomes : List Outcome}
    (h : plan.nextStrategy? strategy (session.readPage resource (plan.query strategy) outcomes).result = some next) :
    let read := session.readPage resource (plan.query strategy) outcomes
    let later := attempts session resource defaultSize (plan.again defaultSize) next read.pending
    attempts session resource defaultSize plan strategy outcomes = { later with sent := read.sent ++ later.sent } := by
  rw [attempts]
  split
  · rename_i hnone
    exact absurd (h.symm.trans hnone) (by simp)
  · rename_i next' hnext
    obtain rfl : next = next' := Option.some.inj (h.symm.trans hnext)
    rfl

/-- **The attempts of a load in closed form.** -/
theorem attempts_eq (plan : LoadPlan) (strategy : CountStrategy) (outcomes : List Outcome) :
    ∃ n ≤ strategy.stepsLeft,
      (∀ i < n, Rejects (countAt plan strategy i)
        (attemptAt session resource defaultSize plan strategy outcomes i).result) ∧
      ¬Rejects (countAt plan strategy n)
        (attemptAt session resource defaultSize plan strategy outcomes n).result ∧
      attempts session resource defaultSize plan strategy outcomes =
        ⟨(attemptAt session resource defaultSize plan strategy outcomes n).result,
          (LoadPlan.again · defaultSize)^[n] plan, CountStrategy.down^[n] strategy,
          (List.range (n + 1)).flatMap fun i =>
            (attemptAt session resource defaultSize plan strategy outcomes i).sent,
          (attemptAt session resource defaultSize plan strategy outcomes n).pending⟩ := by
  -- After a rejection, attempt `i` of the next plan is attempt `i + 1` of this one.
  induction plan, strategy, outcomes using attempts.induct session resource defaultSize with
  | case1 plan strategy outcomes read hnext =>
    refine ⟨0, Nat.zero_le _, fun i hi => absurd hi (Nat.not_lt_zero i), fun hr => ?_, ?_⟩
    · have := LoadPlan.nextStrategy?_eq_some_iff.2 ⟨hr, rfl⟩
      exact absurd (hnext.symm.trans this) (by simp)
    · rw [attempts_of_settled session resource defaultSize hnext]
      simp [attemptAt, queryAt]
  | case2 plan strategy outcomes read next hnext ih =>
    obtain ⟨hrejects, rfl⟩ := LoadPlan.nextStrategy?_eq_some_iff.1 hnext
    have hpending : (session.readPage resource (plan.query strategy) outcomes).pending =
        outcomes.drop 1 := by
      obtain ⟨url, hu⟩ := Session.exists_url_of_rejects hrejects
      have := session.readPage_of_url hu outcomes 0
      rw [List.drop_zero] at this
      exact congrArg Exchange.pending this
    rw [show read.pending = outcomes.drop 1 from hpending] at ih
    obtain ⟨n, hn, hbefore, hlast, heq⟩ := ih
    simp only [attemptAt_again] at hbefore hlast heq
    have hsteps := LoadPlan.stepsLeft_of_nextStrategy? hnext
    refine ⟨n + 1, by omega, fun i hi => ?_, hlast, ?_⟩
    · cases i with
      | zero => exact hrejects
      | succ i => exact hbefore i (by omega)
    · rw [attempts_of_rejected session resource defaultSize hnext, hpending, heq,
        List.range_succ_eq_map (n := n + 1)]
      simp only [List.flatMap_cons, List.flatMap_map, Function.iterate_succ_apply]
      rfl

/-- **What the attempts of a load come to.** Either an attempt has no URL, or each but the last is answered by a
rejection of its counting option, and the result is what the last one is answered by. -/
theorem attempts_cases (plan : LoadPlan) (strategy : CountStrategy) (outcomes : List Outcome) :
    let a := attempts session resource defaultSize plan strategy outcomes
    (∃ i fault, a.result = .error fault ∧
      (queryAt defaultSize plan strategy i).toUrl (resourceUrl session.base resource) = .error fault) ∨
    ∃ (n : Nat) (url : Nat → JsonText),
      a = ⟨Page.ofOutcome (outcomeAt outcomes n) (url n), (LoadPlan.again · defaultSize)^[n] plan,
        CountStrategy.down^[n] strategy, (List.range (n + 1)).map fun i => session.dataRequest (url i),
        outcomes.drop (n + 1)⟩ ∧
      ∀ i ≤ n, (queryAt defaultSize plan strategy i).toUrl (resourceUrl session.base resource) =
          .ok (url i) ∧
        (i < n ↔ Rejects (countAt plan strategy i) (Page.ofOutcome (outcomeAt outcomes i) (url i))) := by
  intro a
  obtain ⟨n, -, hbefore, hlast, heq⟩ := attempts_eq session resource defaultSize plan strategy outcomes
  cases hu : (queryAt defaultSize plan strategy n).toUrl (resourceUrl session.base resource) with
  | error fault =>
    refine .inl ⟨n, fault, ?_, hu⟩
    simp only [a, heq, attemptAt, session.readPage_of_no_url hu]
  | ok last =>
    have hurl : ∀ i ≤ n, ∃ url,
        (queryAt defaultSize plan strategy i).toUrl (resourceUrl session.base resource) = .ok url := by
      intro i hi
      rcases Nat.lt_or_eq_of_le hi with hi | rfl
      · exact Session.exists_url_of_rejects (hbefore i hi)
      · exact ⟨last, hu⟩
    choose! url hurl using hurl
    refine .inr ⟨n, url, ?_, fun i hi => ⟨hurl i hi, fun hlt => ?_, fun hr => ?_⟩⟩
    · simp only [a, heq, flatMap_sent_eq_map fun i hi => hurl i (Nat.le_of_lt_succ hi),
        attemptAt_of_url (hurl n le_rfl)]
    · simpa only [attemptAt_of_url (hurl i hi)] using hbefore i hlt
    · refine lt_of_le_of_ne hi ?_
      rintro rfl
      exact hlast (by simpa only [attemptAt_of_url (hurl i hi)] using hr)

/-- What attempts that end in a page have sent: one request for each, the last of which was answered by the
page. -/
theorem attempts_sent_of_page {plan : LoadPlan} {strategy : CountStrategy} {outcomes : List Outcome}
    {page : Page}
    (h : (attempts session resource defaultSize plan strategy outcomes).result = .ok page) :
    ∃ n url, (attempts session resource defaultSize plan strategy outcomes).sent.length = n + 1 ∧
      (attempts session resource defaultSize plan strategy outcomes).sent.getLast? =
        some (session.dataRequest url) ∧
      Page.ofOutcome (outcomeAt outcomes n) url = .ok page := by
  rcases attempts_cases session resource defaultSize plan strategy outcomes with
    ⟨_, fault, hnone, -⟩ | ⟨n, url, heq, -⟩
  · exact absurd (hnone.symm.trans h) nofun
  · rw [heq] at h ⊢
    refine ⟨n, url n, by simp, ?_, h⟩
    rw [List.range_succ, List.map_append]
    simp

end ODataBrowser
