import ODataBrowser.Proofs.Pager.Loading
import ODataBrowser.Proofs.Pager.Requests

/-!
# The last answer of a load

Only the rejection of a counting option makes a load ask again. So a load that comes to another answer ends with it
(`Pager.load_of_isFinal`), whatever was answered before: a page is applied, and a fault that is no failure of the
request is the result.
-/

namespace ODataBrowser

open Query

/-- Whether an outcome never makes a load ask again, whatever the address and the counting option of the request. -/
def Outcome.IsFinal (outcome : Outcome) : Prop :=
  ∀ url count, ¬Rejects count (Page.ofOutcome outcome url)

/-- A page is final, and so is a fault that is no refusal. -/
theorem Outcome.isFinal_of_ne_refused {outcome : Outcome}
    (h : ∀ url e, Page.ofOutcome outcome url ≠ .error (.request (.refused e))) : outcome.IsFinal := by
  rintro url count ⟨_, _, e, -, he, -⟩
  exact h url e he

variable {outcome : Outcome}

/-- Attempts that come to a final answer end with it. -/
theorem attempts_of_isFinal (h : outcome.IsFinal) (session : Session) (resource : JsonText) (defaultSize : Int)
    (before after : List Outcome) (plan : LoadPlan) (strategy : CountStrategy)
    (hreached : before.length <
      (attempts session resource defaultSize plan strategy (before ++ outcome :: after)).sent.length) :
    ∃ url, (attempts session resource defaultSize plan strategy (before ++ outcome :: after)).result =
      Page.ofOutcome outcome url := by
  generalize houtcomes : before ++ outcome :: after = outcomes at hreached ⊢
  induction plan, strategy, outcomes using attempts.induct session resource defaultSize generalizing before with
  | case1 plan strategy outcomes read =>
    rename_i hnext
    rw [attempts_of_settled session resource defaultSize hnext] at hreached ⊢
    cases hu : (plan.query strategy).toUrl (resourceUrl session.base resource) with
    | error fault =>
      rw [session.readPage_of_no_url hu] at hreached
      exact absurd hreached (Nat.not_lt_zero _)
    | ok url =>
      have hread := session.readPage_of_url hu outcomes 0
      rw [List.drop_zero] at hread
      rw [hread] at hreached ⊢
      obtain rfl : before = [] := List.length_eq_zero_iff.1 (Nat.lt_one_iff.1 hreached)
      exact ⟨url, by rw [← houtcomes]; rfl⟩
  | case2 plan strategy outcomes read next =>
    rename_i hnext ih
    rw [attempts_of_rejected session resource defaultSize hnext] at hreached ⊢
    have hrejects : Rejects (plan.query strategy).count
        (session.readPage resource (plan.query strategy) outcomes).result :=
      (LoadPlan.nextStrategy?_eq_some_iff.1 hnext).1
    obtain ⟨url, hu⟩ := Session.exists_url_of_rejects hrejects
    have hread := session.readPage_of_url hu outcomes 0
    rw [List.drop_zero] at hread
    -- The answer that was rejected stands before the final one.
    cases before with
    | nil =>
      rw [hread, ← houtcomes] at hrejects
      exact absurd hrejects (h url _)
    | cons first before =>
      refine ih before ?_ ?_
      · change _ = (session.readPage resource (plan.query strategy) outcomes).pending
        rw [hread, ← houtcomes]
        rfl
      · have hsent : (session.readPage resource (plan.query strategy) outcomes).sent.length = 1 := by rw [hread]; rfl
        simp only [List.length_append, List.length_cons, hsent] at hreached
        change before.length < (attempts session resource defaultSize (plan.again defaultSize) next
          (session.readPage resource (plan.query strategy) outcomes).pending).sent.length
        omega

namespace Pager

variable (p : Pager) (session : Session)

/-- A load over whose arguments there is no fault concludes attempts. -/
theorem exists_load_eq {arguments : LoadArguments} {outcomes : List Outcome}
    (h : (p.load session arguments outcomes).sent ≠ []) :
    ∃ (q : Pager) (resource : JsonText) (defaultSize : Int) (plan : LoadPlan) (strategy : CountStrategy),
      let a := attempts session resource defaultSize plan strategy outcomes
      p.load session arguments outcomes =
        ⟨(q.conclude resource a).1, (q.conclude resource a).2, a.sent, a.pending⟩ := by
  unfold load at h ⊢
  cases hactive : p.activate arguments.resource with
  | error fault =>
    rw [hactive] at h
    contradiction
  | ok active =>
    rw [hactive] at h
    dsimp only at h ⊢
    unfold loadActive at h ⊢
    cases hplan : active.plan arguments with
    | error fault =>
      rw [hplan] at h
      contradiction
    | ok plan =>
      rw [hplan] at h
      dsimp only at h ⊢
      cases htarget : target arguments with
      | error fault =>
        rw [htarget] at h
        contradiction
      | ok resource =>
        dsimp only
        obtain ⟨status, -, hrun⟩ := exists_run_eq
          { active with status := if arguments.isRetry then .retrying else .loading } session resource plan outcomes
        exact ⟨_, resource, _, plan, _, hrun⟩

/-- **A load that comes to a final answer ends with it.** -/
theorem load_of_isFinal (h : outcome.IsFinal) {arguments : LoadArguments} (before after : List Outcome)
    (hreached : before.length < (p.load session arguments (before ++ outcome :: after)).sent.length) :
    ∃ (q : Pager) (resource : JsonText) (a : Attempts) (url : JsonText), a.result = Page.ofOutcome outcome url ∧
      (p.load session arguments (before ++ outcome :: after)).result = (q.conclude resource a).1 := by
  obtain ⟨q, resource, defaultSize, plan, strategy, hload⟩ :=
    p.exists_load_eq session (List.ne_nil_of_length_pos (Nat.zero_lt_of_lt hreached))
  rw [hload] at hreached ⊢
  obtain ⟨url, hurl⟩ := attempts_of_isFinal h session resource defaultSize before after plan strategy hreached
  exact ⟨q, resource, _, url, hurl, rfl⟩

/-- A plain load whose page size can be written sends a request. -/
theorem load_sent_ne_nil (name : JsonText) (hsize : IsWritable p.defaultSize) (outcomes : List Outcome) :
    (p.load session (integerArguments name 0 none [] [] false) outcomes).sent ≠ [] := by
  have hdefault : (p.onResource name).sizeFor none = p.defaultSize := by
    rcases p.onResource_cases name with ⟨-, h⟩ | h <;> rw [h] <;> rfl
  obtain ⟨-, hsent, -⟩ | ⟨hnoted, -⟩ := @load_integerArguments p session name 0 none none none [] [] false outcomes rfl rfl
  · rw [hsent, attempts_sent_ne_nil_iff, exists_url_queryOf_iff, hdefault]
    exact ⟨hsize, isWritable_of_nonpos le_rfl, fun t ht => absurd ht (Option.not_mem_none t)⟩
  · exact absurd (List.forall_mem_nil _) hnoted

/-- An answer that is nested too deeply ends a load in a fault that is no fetch error. -/
theorem load_of_tooDeep (h : ∀ url, Page.ofOutcome outcome url = .error .tooDeep) {arguments : LoadArguments}
    (before after : List Outcome)
    (hreached : before.length < (p.load session arguments (before ++ outcome :: after)).sent.length) :
    (p.load session arguments (before ++ outcome :: after)).result = .error .tooDeep := by
  have hfinal : outcome.IsFinal := Outcome.isFinal_of_ne_refused fun url e he => by
    rw [h url] at he
    cases he
  obtain ⟨q, resource, a, url, ha, hload⟩ := p.load_of_isFinal session hfinal before after hreached
  rw [h url] at ha
  refine hload.trans ?_
  unfold conclude
  rw [ha]

end Pager

end ODataBrowser
