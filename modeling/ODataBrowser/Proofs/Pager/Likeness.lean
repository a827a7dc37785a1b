import Mathlib.Data.List.Forall2
import ODataBrowser.Proofs.Pager.Attempts

/-!
# Answers that loads do not tell apart

Of a refused request a load uses nothing but the status and the message (`LoadPlan.nextStrategy?_congr`,
`Pager.conclude_congr`). The body, the header fields and the address show in the cause of the error only. So where the
answers are alike one by one, a load sends the same requests and comes to the same result and to the same state
(`Pager.load_congr`).
-/

namespace ODataBrowser

open Query

/-! ## Likeness -/

/-- Whether two results of a request are the same to a load: equal, or both refusals with one status and one
message. -/
def Page.IsLike (result result' : Except Fault Page) : Prop :=
  result' = result ∨ ∃ e e' : ServiceError, result = .error (.request (.refused e)) ∧
    result' = .error (.request (.refused e')) ∧ e'.status = e.status ∧ e'.message = e.message

/-- Whether two outcomes are the same to a load, whatever the address was. -/
def Outcome.IsLike (outcome outcome' : Outcome) : Prop :=
  ∀ url, Page.IsLike (Page.ofOutcome outcome url) (Page.ofOutcome outcome' url)

theorem Outcome.IsLike.refl (outcome : Outcome) : outcome.IsLike outcome :=
  fun _ => .inl rfl

/-- Whether two loads have sent the same requests and come to the same result and the same state. The cause of an error
may be another one. -/
structure Load.IsLike (load load' : Load) : Prop where
  sent : load'.sent = load.sent
  pager : load'.pager = load.pager
  result : load'.result = load.result ∨ ∃ e cause cause', load.result = .error (.fetch e cause) ∧
    load'.result = .error (.fetch e cause')

/-- Whether the requests of two loads are the same and have come to the same. -/
structure Attempts.IsLike (a a' : Attempts) : Prop where
  result : Page.IsLike a.result a'.result
  plan : a'.plan = a.plan
  strategy : a'.strategy = a.strategy
  sent : a'.sent = a.sent

/-! ## Steps -/

/-- Of a refusal, only the message decides whether a load asks again. -/
theorem LoadPlan.nextStrategy?_congr {result result' : Except Fault Page} (h : Page.IsLike result result')
    (plan : LoadPlan) (strategy : CountStrategy) :
    plan.nextStrategy? strategy result' = plan.nextStrategy? strategy result := by
  rcases h with rfl | ⟨e, e', rfl, rfl, -, hmessage⟩
  · rfl
  · simp only [nextStrategy?, hmessage]

theorem FetchError.ofFailure_congr {e e' : ServiceError} (hstatus : e'.status = e.status)
    (hmessage : e'.message = e.message) (resource : JsonText) :
    ofFailure resource (.refused e') = ofFailure resource (.refused e) := by
  simp only [ofFailure, hstatus, hmessage]

variable {outcomes outcomes' : List Outcome}

theorem nextOutcome_congr (h : List.Forall₂ Outcome.IsLike outcomes outcomes') :
    (nextOutcome outcomes).1.IsLike (nextOutcome outcomes').1 ∧
      List.Forall₂ Outcome.IsLike (nextOutcome outcomes).2 (nextOutcome outcomes').2 := by
  cases h with
  | nil => exact ⟨.refl _, .nil⟩
  | cons hhead htail => exact ⟨hhead, htail⟩

theorem Session.readPage_congr (h : List.Forall₂ Outcome.IsLike outcomes outcomes') (session : Session)
    (resource : JsonText) (query : PageQuery) :
    Page.IsLike (session.readPage resource query outcomes).result (session.readPage resource query outcomes').result ∧
      (session.readPage resource query outcomes').sent = (session.readPage resource query outcomes).sent ∧
      List.Forall₂ Outcome.IsLike (session.readPage resource query outcomes).pending
        (session.readPage resource query outcomes').pending := by
  obtain ⟨hnext, hrest⟩ := nextOutcome_congr h
  unfold readPage
  cases query.toUrl (resourceUrl session.base resource) with
  | error fault => exact ⟨.inl rfl, rfl, h⟩
  | ok url => exact ⟨hnext url, rfl, hrest⟩

/-- Where the answers are alike, so are the attempts. -/
theorem attempts_congr (h : List.Forall₂ Outcome.IsLike outcomes outcomes') (session : Session) (resource : JsonText)
    (defaultSize : Int) (plan : LoadPlan) (strategy : CountStrategy) :
    (attempts session resource defaultSize plan strategy outcomes).IsLike
      (attempts session resource defaultSize plan strategy outcomes') := by
  induction plan, strategy, outcomes using attempts.induct session resource defaultSize generalizing outcomes' with
  | case1 plan strategy outcomes read =>
    rename_i hnext
    obtain ⟨hresult, hsent, -⟩ := session.readPage_congr h resource (plan.query strategy)
    have hnext' := (LoadPlan.nextStrategy?_congr hresult plan strategy).trans hnext
    rw [attempts_of_settled session resource defaultSize hnext, attempts_of_settled session resource defaultSize hnext']
    exact ⟨hresult, rfl, rfl, hsent⟩
  | case2 plan strategy outcomes read next =>
    rename_i hnext ih
    obtain ⟨hresult, hsent, hpending⟩ := session.readPage_congr h resource (plan.query strategy)
    have hnext' := (LoadPlan.nextStrategy?_congr hresult plan strategy).trans hnext
    rw [attempts_of_rejected session resource defaultSize hnext,
      attempts_of_rejected session resource defaultSize hnext']
    have hlater := ih hpending
    exact ⟨hlater.result, hlater.plan, hlater.strategy, by rw [hsent, hlater.sent]⟩

/-! ## Loads -/

namespace Pager

variable (p : Pager) (session : Session)

/-- A refusal shows in the error by its status and its message, and besides as the cause. -/
theorem conclude_congr {a a' : Attempts} (h : a.IsLike a') (resource : JsonText) :
    (p.conclude resource a').2 = (p.conclude resource a).2 ∧
      ((p.conclude resource a').1 = (p.conclude resource a).1 ∨
        ∃ e cause cause', (p.conclude resource a).1 = .error (.fetch e cause) ∧
          (p.conclude resource a').1 = .error (.fetch e cause')) := by
  unfold conclude
  rw [h.strategy, h.plan]
  rcases h.result with heq | ⟨e, e', heq, heq', hstatus, hmessage⟩
  · rw [heq]
    exact ⟨rfl, .inl rfl⟩
  · simp only [heq, heq', FetchError.ofFailure_congr hstatus hmessage]
    exact ⟨trivial, .inr ⟨_, _, _, rfl, rfl⟩⟩

theorem run_congr (h : List.Forall₂ Outcome.IsLike outcomes outcomes') (resource : JsonText) (plan : LoadPlan) :
    (p.run session resource plan outcomes).IsLike (p.run session resource plan outcomes') := by
  have hattempts := attempts_congr h session resource p.defaultSize plan p.strategy
  unfold run
  generalize attempts session resource p.defaultSize plan p.strategy outcomes = a at hattempts ⊢
  generalize attempts session resource p.defaultSize plan p.strategy outcomes' = a' at hattempts ⊢
  dsimp only
  rw [hattempts.strategy]
  obtain ⟨hpager, hresult⟩ := conclude_congr _ hattempts resource
  exact ⟨hattempts.sent, hpager, hresult⟩

theorem loadActive_congr (h : List.Forall₂ Outcome.IsLike outcomes outcomes') (arguments : LoadArguments) :
    (p.loadActive session arguments outcomes).IsLike (p.loadActive session arguments outcomes') := by
  unfold loadActive
  cases p.plan arguments with
  | error fault => exact ⟨rfl, rfl, .inl rfl⟩
  | ok plan =>
    dsimp only
    cases target arguments with
    | error fault => exact ⟨rfl, rfl, .inl rfl⟩
    | ok resource => exact run_congr _ session h resource plan

/-- **Loads do not tell apart answers that are alike.** -/
theorem load_congr (h : List.Forall₂ Outcome.IsLike outcomes outcomes') (arguments : LoadArguments) :
    (p.load session arguments outcomes).IsLike (p.load session arguments outcomes') := by
  unfold load
  cases p.activate arguments.resource with
  | error fault => exact ⟨rfl, rfl, .inl rfl⟩
  | ok active => exact loadActive_congr active session h arguments

/-- One answer may be replaced by one that is alike. -/
theorem load_congr_of_isLike {outcome outcome' : Outcome} (h : outcome.IsLike outcome') (before after : List Outcome)
    (arguments : LoadArguments) :
    (p.load session arguments (before ++ outcome :: after)).IsLike
      (p.load session arguments (before ++ outcome' :: after)) := by
  have hrefl (outcomes : List Outcome) : List.Forall₂ Outcome.IsLike outcomes outcomes :=
    List.forall₂_same.2 fun _ _ => .refl _
  exact p.load_congr session (List.rel_append (hrefl before) (.cons h (hrefl after))) arguments

end Pager

end ODataBrowser
