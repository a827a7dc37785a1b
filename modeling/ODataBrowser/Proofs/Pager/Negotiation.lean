import ODataBrowser.Proofs.Pager.Run
import ODataBrowser.Proofs.Query.Options
import ODataBrowser.Proofs.Text.Lowercase

/-!
# The count strategy over a run

The requests of a run and their answers move the count strategy as `Negotiates` says: a request carries the counting
option of the strategy or none, and the strategy moves to the next one just where the answer rejects the option that
the request carries. The attempts of a load do so (`Pager.negotiates_attempts`), and therefore its requests
(`Pager.negotiates_loadOf`) and those of a run. That an option which was rejected is never sent again, and that a run
is rejected at most twice, follows from this alone (`Pager.strategy_of_loads`).
-/

namespace ODataBrowser

open Query Text

/-! ## Rejections -/

/-- Whether a URL carries the counting option of a strategy behind the address of the resource. -/
def carries (address url : JsonText) (strategy : CountStrategy) : Bool :=
  match strategy.parameter? with
  | some (option, _) => (optionsIn address url).any (·.1 == option.toList)
  | none => false

/-- A request with what it came to. -/
structure Answered where
  request : Request
  outcome : Outcome

namespace Answered

/-- The message by which the service refused the request, if it did. -/
def refusal? (a : Answered) : Option (List Char) :=
  match Page.ofOutcome a.outcome a.request.url with
  | .error (.request (.refused e)) => some e.message.display
  | _ => none

/-- Whether the answer rejects the counting option of a strategy: the request carried the option, and the service
refused it by a message that, in lower case, names the option and calls it not valid. -/
def isRejectedFor (a : Answered) (address : JsonText) (strategy : CountStrategy) : Bool :=
  carries address a.request.url strategy && a.refusal?.any strategy.isRejectedBy

/-- Whether the answer rejects a counting option that the request carried. -/
def isRejected (a : Answered) (address : JsonText) : Bool :=
  CountStrategy.all.any (a.isRejectedFor address)

/-- Whether the request carries no counting option but that of the strategy. -/
def CarriesAtMost (a : Answered) (address : JsonText) (strategy : CountStrategy) : Prop :=
  ∀ carried, carries address a.request.url carried = true → carried = strategy

end Answered

theorem CountStrategy.mem_all (strategy : CountStrategy) : strategy ∈ all := by
  cases strategy <;> decide

theorem CountStrategy.isRejectedBy_iff {strategy : CountStrategy} {message : List Char} :
    strategy.isRejectedBy message = true ↔ ∃ option value, strategy.parameter? = some (option, value) ∧
      occurs option.toList (lowercase message) = true ∧
      occurs "not a valid".toList (lowercase message) = true := by
  unfold isRejectedBy
  cases strategy.parameter? with
  | none => exact iff_of_false Bool.false_ne_true (by simp)
  | some pair =>
    rw [Bool.and_eq_true]
    constructor
    · exact fun h => ⟨pair.1, pair.2, rfl, h⟩
    · rintro ⟨option, value, hpair, h⟩
      cases hpair
      exact h

/-- A message that names the option and calls it not valid does so in lower case too. -/
theorem CountStrategy.isRejectedBy_of_occurs {strategy : CountStrategy} {option value : String}
    {message : List Char} (hparameter : strategy.parameter? = some (option, value))
    (hoption : occurs option.toList message = true) (hphrase : occurs "not a valid".toList message = true) :
    strategy.isRejectedBy message = true := by
  have hown : option.toList.all isOwnLowercase = true := by
    cases strategy with
    | none => contradiction
    | count =>
      cases hparameter
      decide
    | inlinecount =>
      cases hparameter
      decide +kernel
  rw [isRejectedBy_iff]
  exact ⟨option, value, hparameter, occurs_lowercase hown hoption, occurs_lowercase (by decide) hphrase⟩

theorem Answered.isRejectedFor_of_occurs {a : Answered} {address : JsonText} {strategy : CountStrategy}
    {option value : String} {message : List Char} (hcarries : carries address a.request.url strategy = true)
    (hparameter : strategy.parameter? = some (option, value)) (hrefusal : a.refusal? = some message)
    (hoption : occurs option.toList message = true) (hphrase : occurs "not a valid".toList message = true) :
    a.isRejectedFor address strategy = true := by
  rw [isRejectedFor, hcarries, hrefusal, Option.any_some, Bool.true_and]
  exact CountStrategy.isRejectedBy_of_occurs hparameter hoption hphrase

theorem rejects_parameter?_iff {strategy : CountStrategy} {a : Answered} :
    Rejects strategy.parameter? (Page.ofOutcome a.outcome a.request.url) ↔
      a.refusal?.any strategy.isRejectedBy = true := by
  unfold Rejects Answered.refusal?
  split
  · rename_i e hresult
    rw [Option.any_some, CountStrategy.isRejectedBy_iff]
    constructor
    · rintro ⟨option, value, e', hparameter, he, hmessage⟩
      cases hresult.symm.trans he
      exact ⟨option, value, hparameter, hmessage⟩
    · rintro ⟨option, value, hparameter, hmessage⟩
      exact ⟨option, value, e, hparameter, hresult, hmessage⟩
  · rename_i hother
    refine iff_of_false ?_ (by simp)
    rintro ⟨_, _, e, -, he, -⟩
    exact hother e he

/-! ## The options that a request carries -/

/-- Of the options of a query only the last can be a counting option. -/
theorem any_pairs {q : PageQuery} {key : List Char}
    (h : ∀ name ∈ "$format" :: (["$top", "$skip"] ++ ["$orderby", "$filter"]), name.toList ≠ key) :
    q.pairs.any (·.1 == key) = q.count.any (·.1.toList == key) := by
  obtain ⟨hformat, hothers⟩ := List.forall_mem_cons.1 h
  rw [Bool.eq_iff_iff, List.any_eq_true]
  constructor
  · rintro ⟨pair, hpair, hkey⟩
    revert hkey
    refine PageQuery.forall_mem_pairs
      (P := fun pair => (pair.1 == key) = true → q.count.any (·.1.toList == key) = true) (fun hkey => ?_)
      (fun name hname n _ hkey => ?_) (fun name hname cs hkey => ?_) (fun pair hpair hkey => ?_) hpair
    · exact absurd (eq_of_beq hkey) hformat
    · exact absurd (eq_of_beq hkey) (hothers name (List.mem_append_left _ hname))
    · exact absurd (eq_of_beq hkey) (hothers name (List.mem_append_right _ hname))
    · rw [Option.mem_def.1 hpair]
      exact hkey
  · intro hany
    cases hq : q.count with
    | none => simp [hq] at hany
    | some pair => exact ⟨(pair.1.toList, pair.2.toList), by simp [PageQuery.pairs, hq], by simpa [hq] using hany⟩

/-- The URL of a query carries the counting option of the query and no other. -/
theorem carries_iff {q : PageQuery} {asked strategy : CountStrategy} {address url : JsonText}
    (hcount : q.count = asked.parameter?) (h : q.toUrl address = .ok url) :
    carries address url strategy = true ↔ asked = strategy ∧ strategy ≠ .none := by
  unfold carries
  rw [PageQuery.optionsIn_toUrl (hcount ▸ not_mem_parameter? asked) h]
  cases strategy with
  | none => simp [CountStrategy.parameter?]
  | count =>
    dsimp only [CountStrategy.parameter?]
    rw [any_pairs (by decide), hcount]
    cases asked <;> decide
  | inlinecount =>
    dsimp only [CountStrategy.parameter?]
    rw [any_pairs (by decide), hcount]
    cases asked <;> decide

/-- An answer rejects the option of a query just if it rejects what the query carries. -/
theorem isRejectedFor_iff {q : PageQuery} {asked strategy : CountStrategy} {address : JsonText} {a : Answered}
    (hcount : q.count = asked.parameter?) (h : q.toUrl address = .ok a.request.url) :
    a.isRejectedFor address strategy = true ↔
      asked = strategy ∧ Rejects q.count (Page.ofOutcome a.outcome a.request.url) := by
  rw [Answered.isRejectedFor, Bool.and_eq_true, carries_iff hcount h, ← rejects_parameter?_iff, hcount]
  constructor
  · rintro ⟨⟨rfl, -⟩, hrejects⟩
    exact ⟨rfl, hrejects⟩
  · rintro ⟨rfl, hrejects⟩
    refine ⟨⟨rfl, ?_⟩, hrejects⟩
    rintro rfl
    obtain ⟨_, _, _, hnone, -⟩ := hrejects
    contradiction

/-! ## Negotiation -/

/-- How answers to requests move the count strategy. Each request carries no counting option but that of the
strategy. Where the answer rejects the option, the strategy moves to the next one; else it stays. -/
inductive Negotiates (address : JsonText) : CountStrategy → List Answered → CountStrategy → Prop
  | nil (s : CountStrategy) : Negotiates address s [] s
  | keep {s t : CountStrategy} {a : Answered} {rest : List Answered} :
    a.CarriesAtMost address s → a.isRejectedFor address s = false →
    Negotiates address s rest t → Negotiates address s (a :: rest) t
  | step {s next t : CountStrategy} {a : Answered} {rest : List Answered} :
    a.CarriesAtMost address s → a.isRejectedFor address s = true → s.next? = some next →
    Negotiates address next rest t → Negotiates address s (a :: rest) t

theorem Answered.isRejected_eq {a : Answered} {address : JsonText} {s : CountStrategy}
    (h : a.CarriesAtMost address s) : a.isRejected address = a.isRejectedFor address s := by
  apply Bool.eq_iff_iff.2
  unfold isRejected
  rw [List.any_eq_true]
  constructor
  · rintro ⟨strategy, -, hrejected⟩
    obtain ⟨hcarries, -⟩ := Bool.and_eq_true_iff.1 hrejected
    exact h strategy hcarries ▸ hrejected
  · exact fun hrejected => ⟨s, s.mem_all, hrejected⟩

theorem CountStrategy.stepsLeft_next? {s next : CountStrategy} (h : s.next? = some next) :
    next.stepsLeft + 1 = s.stepsLeft := by
  cases s <;> cases h <;> rfl

theorem LoadPlan.next?_of_nextStrategy? {plan : LoadPlan} {strategy next : CountStrategy}
    {result : Except Fault Page} (h : plan.nextStrategy? strategy result = some next) :
    strategy.next? = some next := by
  unfold nextStrategy? at h
  split at h
  · split at h
    · unfold CountStrategy.afterMessage? at h
      split at h
      · exact h
      · contradiction
    · contradiction
  · contradiction

namespace Negotiates

variable {address : JsonText} {s t u : CountStrategy} {answers more : List Answered}

theorem append (h : Negotiates address s answers t) (hmore : Negotiates address t more u) :
    Negotiates address s (answers ++ more) u := by
  induction h with
  | nil => exact hmore
  | keep hcarries hkept _ ih => exact .keep hcarries hkept (ih hmore)
  | step hcarries hrejected hnext _ ih => exact .step hcarries hrejected hnext (ih hmore)

theorem exists_of_append (h : Negotiates address s (answers ++ more) u) :
    ∃ t, Negotiates address s answers t ∧ Negotiates address t more u := by
  induction answers generalizing s with
  | nil => exact ⟨s, .nil s, h⟩
  | cons a answers ih =>
    cases h with
    | keep hcarries hkept hrest =>
      obtain ⟨t, hfirst, hmore⟩ := ih hrest
      exact ⟨t, .keep hcarries hkept hfirst, hmore⟩
    | step hcarries hrejected hnext hrest =>
      obtain ⟨t, hfirst, hmore⟩ := ih hrest
      exact ⟨t, .step hcarries hrejected hnext hfirst, hmore⟩

/-- The strategy takes one step for each rejection. -/
theorem stepsLeft_add (h : Negotiates address s answers t) :
    t.stepsLeft + answers.countP (·.isRejected address) = s.stepsLeft := by
  induction h with
  | nil => rfl
  | keep hcarries hkept _ ih =>
    rw [List.countP_cons_of_neg (by simp [Answered.isRejected_eq hcarries, hkept]), ih]
  | step hcarries hrejected hnext _ ih =>
    rw [List.countP_cons_of_pos (by rw [Answered.isRejected_eq hcarries, hrejected]), ← Nat.add_assoc, ih]
    exact CountStrategy.stepsLeft_next? hnext

/-- No request carries an option of a strategy that was left behind. -/
theorem stepsLeft_le_of_carries (h : Negotiates address s answers t) {b : Answered} (hb : b ∈ answers)
    {strategy : CountStrategy} (hcarries : carries address b.request.url strategy = true) :
    strategy.stepsLeft ≤ s.stepsLeft := by
  induction h with
  | nil => exact absurd hb List.not_mem_nil
  | keep hfirst _ _ ih =>
    rcases List.mem_cons.1 hb with rfl | hb
    · rw [hfirst strategy hcarries]
    · exact ih hb
  | step hfirst _ hnext _ ih =>
    rcases List.mem_cons.1 hb with rfl | hb
    · rw [hfirst strategy hcarries]
    · exact (ih hb).trans (CountStrategy.stepsLeft_of_next? hnext).le

/-- An option that was rejected is not sent again. -/
theorem not_carries_of_rejected {a : Answered} {strategy : CountStrategy}
    (h : Negotiates address s (answers ++ a :: more) u) (hrejected : a.isRejectedFor address strategy = true)
    {b : Answered} (hb : b ∈ more) : carries address b.request.url strategy = false := by
  obtain ⟨t, -, hrest⟩ := h.exists_of_append
  have hcarried : carries address a.request.url strategy = true := (Bool.and_eq_true_iff.1 hrejected).1
  cases hrest with
  | keep hfirst hkept _ =>
    rw [hfirst strategy hcarried, hkept] at hrejected
    contradiction
  | step hfirst _ hnext hmore =>
    rw [Bool.eq_false_iff]
    intro hcarries
    have hle := hmore.stepsLeft_le_of_carries hb hcarries
    rw [hfirst strategy hcarried] at hle
    exact absurd (CountStrategy.stepsLeft_of_next? hnext) (Nat.not_lt.2 hle)

/-- A request without a counting option leaves the strategy as it is. -/
theorem exists_of_not_carries {a : Answered} (h : Negotiates address s (answers ++ a :: more) u)
    (hnone : ∀ strategy, carries address a.request.url strategy = false) :
    ∃ t, Negotiates address s answers t ∧ Negotiates address t more u := by
  obtain ⟨t, hfirst, hrest⟩ := h.exists_of_append
  cases hrest with
  | keep _ _ hmore => exact ⟨t, hfirst, hmore⟩
  | step _ hrejected _ _ =>
    rw [Answered.isRejectedFor, hnone t, Bool.false_and] at hrejected
    contradiction

end Negotiates

/-! ## The requests of a run -/

/-- Requests with what they came to, each of which uses up one outcome. -/
def answersTo : List Request → List Outcome → List Answered
  | [], _ => []
  | request :: rest, outcomes =>
    ⟨request, (nextOutcome outcomes).1⟩ :: answersTo rest (nextOutcome outcomes).2

namespace Pager

variable (session : Session) (name : JsonText)

/-- The requests of a load with what they came to. -/
def answersOf (p : Pager) (call : PageCall) : List Answered :=
  answersTo (p.loadOf session name call).sent call.outcomes

/-- The requests of a run with what they came to. -/
def answers (p : Pager) : List PageCall → List Answered
  | [] => []
  | call :: calls => p.answersOf session name call ++ (p.loadOf session name call).pager.answers calls

/-- An attempt sends nothing, or one request. It carries no counting option but that of the strategy, and the load
steps down just if its answer rejects that. -/
theorem readPage_cases (plan : LoadPlan) (strategy : CountStrategy) (outcomes : List Outcome) :
    let address := resourceUrl session.base name
    let read := session.readPage name (plan.query strategy) outcomes
    (read.sent = [] ∧ plan.nextStrategy? strategy read.result = none) ∨
    ∃ r, read.sent = [r] ∧ read.pending = (nextOutcome outcomes).2 ∧
      Answered.CarriesAtMost ⟨r, (nextOutcome outcomes).1⟩ address strategy ∧
      (Answered.isRejectedFor ⟨r, (nextOutcome outcomes).1⟩ address strategy = true ↔
        ∃ next, plan.nextStrategy? strategy read.result = some next) := by
  intro address read
  cases hurl : (plan.query strategy).toUrl (resourceUrl session.base name) with
  | error fault =>
    have hread : read = ⟨.error fault, [], outcomes⟩ := session.readPage_of_no_url hurl outcomes
    rw [hread]
    rcases PageQuery.fault_of_toUrl hurl with rfl | ⟨rfl, -⟩ <;> exact .inl ⟨rfl, rfl⟩
  | ok url =>
    have hread : read = ⟨Page.ofOutcome (nextOutcome outcomes).1 url, [session.dataRequest url],
        (nextOutcome outcomes).2⟩ := by
      simp only [read, Session.readPage, hurl]
    -- What the request asks by: the strategy, or none if the total is not asked for.
    obtain ⟨asked, hasked, hcount⟩ : ∃ asked : CountStrategy, (asked = strategy ∨ asked = .none) ∧
        (plan.query strategy).count = asked.parameter? := by
      by_cases hasks : plan.asksCount = true
      · exact ⟨strategy, .inl rfl, if_pos hasks⟩
      · exact ⟨.none, .inr rfl, if_neg hasks⟩
    rw [hread]
    refine .inr ⟨_, rfl, rfl, fun carried hcarried => ?_, ?_⟩
    · obtain ⟨rfl, hne⟩ := (carries_iff hcount hurl).1 hcarried
      exact hasked.resolve_right hne
    · simp only [LoadPlan.nextStrategy?_eq_some_iff, exists_eq_right]
      rw [isRejectedFor_iff hcount hurl]
      refine and_iff_right_of_imp fun hrejects => hasked.resolve_right ?_
      rintro rfl
      obtain ⟨_, _, _, hnone, -⟩ := hrejects
      exact absurd (hcount.symm.trans hnone) (by simp [CountStrategy.parameter?])

/-- The attempts of a load negotiate the strategy. -/
theorem negotiates_attempts (defaultSize : Int) (plan : LoadPlan) (strategy : CountStrategy)
    (outcomes : List Outcome) :
    let a := attempts session name defaultSize plan strategy outcomes
    Negotiates (resourceUrl session.base name) strategy (answersTo a.sent outcomes) a.strategy := by
  induction plan, strategy, outcomes using attempts.induct session name defaultSize with
  | case1 plan strategy outcomes read hnext =>
    intro a
    rw [show a = _ from attempts_of_settled session name defaultSize hnext]
    rcases readPage_cases session name plan strategy outcomes with ⟨hsent, -⟩ | ⟨r, hsent, -, hcarries, hiff⟩
    · rw [show read.sent = [] from hsent]
      exact .nil strategy
    · rw [show read.sent = [r] from hsent]
      refine .keep hcarries ?_ (.nil strategy)
      rw [Bool.eq_false_iff]
      intro hrejected
      obtain ⟨next, h⟩ := hiff.1 hrejected
      exact absurd (hnext.symm.trans h) (by simp)
  | case2 plan strategy outcomes read next hnext ih =>
    let later := attempts session name defaultSize (plan.again defaultSize) next read.pending
    intro a
    rw [show a = _ from attempts_of_rejected session name defaultSize hnext]
    rcases readPage_cases session name plan strategy outcomes with
      ⟨-, hnone⟩ | ⟨r, hsent, hpending, hcarries, hiff⟩
    · exact absurd (hnext.symm.trans hnone) (by simp)
    · rw [show read.sent = [r] from hsent]
      have hlater : Negotiates (resourceUrl session.base name) next (answersTo later.sent read.pending)
        later.strategy := ih
      rw [show read.pending = (nextOutcome outcomes).2 from hpending] at hlater
      exact .step hcarries (hiff.2 ⟨next, hnext⟩) (LoadPlan.next?_of_nextStrategy? hnext) hlater

/-! ## Loads and runs -/

theorem conclude_strategy (p : Pager) (a : Attempts) : (p.conclude name a).2.strategy = a.strategy := by
  rcases p.conclude_cases name a with ⟨_, _, _, h⟩ | ⟨_, -, h⟩
  · rw [h]
    rfl
  · rw [h]
    rfl

/-- A load on the active resource negotiates the strategy. -/
theorem negotiates_loadOf {p : Pager} (hp : p.resource = .textual name) (call : PageCall) :
    Negotiates (resourceUrl session.base name) p.strategy (p.answersOf session name call)
      (p.loadOf session name call).pager.strategy := by
  have hname : (call.arguments name).resource = .textual name := rfl
  have hload : p.loadOf session name call = p.loadActive session (call.arguments name) call.outcomes := by
    rw [loadOf, p.load_of_name session hname, onResource_of_active hp]
  unfold answersOf
  rw [hload]
  rcases p.loadActive_cases session hname call.outcomes with ⟨fault, status, -, h⟩ | ⟨plan, status, -, h⟩
  · rw [h]
    exact .nil p.strategy
  · obtain ⟨status', -, hrun⟩ := { p with status }.exists_run_eq session name plan call.outcomes
    rw [h, hrun, conclude_strategy]
    exact negotiates_attempts session name p.defaultSize plan p.strategy call.outcomes

theorem negotiates_after {p : Pager} (hp : p.resource = .textual name) (calls : List PageCall) :
    Negotiates (resourceUrl session.base name) p.strategy (p.answers session name calls)
      (p.after session name calls).strategy := by
  induction calls generalizing p with
  | nil => exact .nil p.strategy
  | cons call calls ih => exact (negotiates_loadOf session name hp call).append (ih (loadOf_resource session hp call))

/-- **The count strategy over a run.** It moves one step for each request that is rejected for the counting option it
carries, of which there are at most two, and else stays. An option that was rejected is not sent again, whether the
message names it as it is or in another case. A request without a counting option leaves the strategy as it is,
whatever it comes to. -/
theorem strategy_of_loads (session : Session) (name : JsonText) (p : Pager) (calls : List PageCall) :
    let address := resourceUrl session.base name
    let q := p.onResource name
    let answers := q.answers session name calls
    let final := (q.after session name calls).strategy
    Negotiates address q.strategy answers final ∧
    final.stepsLeft + answers.countP (·.isRejected address) = q.strategy.stepsLeft ∧
    answers.countP (·.isRejected address) ≤ 2 ∧
    (∀ before a later strategy, answers = before ++ a :: later → a.isRejectedFor address strategy = true →
      ∀ b ∈ later, carries address b.request.url strategy = false) ∧
    (∀ a ∈ answers, ∀ strategy option value message, carries address a.request.url strategy = true →
      strategy.parameter? = some (option, value) → a.refusal? = some message →
      occurs option.toList message = true → occurs "not a valid".toList message = true →
      a.isRejectedFor address strategy = true) ∧
    (∀ before a later, answers = before ++ a :: later →
      (∀ strategy, carries address a.request.url strategy = false) →
      ∃ s, Negotiates address q.strategy before s ∧ Negotiates address s later final) := by
  intro address q answers final
  have h : Negotiates address q.strategy answers final :=
    negotiates_after session name (p.onResource_resource name) calls
  have hcount := h.stepsLeft_add
  have htwo : q.strategy.stepsLeft ≤ 2 := by cases q.strategy <;> decide
  refine ⟨h, hcount, by omega, fun before a later strategy hsplit hrejected b hb => ?_,
    fun a _ strategy option value message => Answered.isRejectedFor_of_occurs,
    fun before a later hsplit hnone => ?_⟩
  · rw [hsplit] at h
    exact h.not_carries_of_rejected hrejected hb
  · rw [hsplit] at h
    exact h.exists_of_not_carries hnone

/-- The first page is refused for `$count` and comes with the second attempt. The next page asks for no total, and an
error that names the other option does not move the strategy. -/
example :
    let calls : List PageCall := [
      { outcomes := [.json 400 "$count is not a valid option", .json 200 "[\x7b\x7d]"] },
      { skip := .int 25, outcomes := [.json 400 "$inlinecount is not a valid option"] }]
    (((start 25 .count).onResource "P").after (.anonymous "https://host/svc") "P" calls).strategy = .inlinecount := by
  decide +kernel

end Pager

end ODataBrowser
