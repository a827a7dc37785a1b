import ODataBrowser.Proofs.Pager.Loading

/-!
# Switching to another resource

A pager keeps nothing of one resource for the next but its default page size and its first count strategy
(`Pager.origin_of_reachable`). A load on a resource that is not the active one is therefore that of a new pager,
and so is each load after a reset (`Pager.load_of_switch`).
-/

namespace ODataBrowser.Pager

/-! ## What is never forgotten -/

/-- The pager as it was when it was new. -/
def origin (p : Pager) : Pager :=
  start p.defaultSize p.negotiator.initial

@[simp] theorem origin_start (defaultSize : Int) (initial : CountStrategy) :
    (start defaultSize initial).origin = start defaultSize initial := rfl

@[simp] theorem origin_reset (p : Pager) (resource : Value) : (p.reset resource).origin = p.origin := rfl

theorem origin_activate {p q : Pager} {resource : Value} (h : p.activate resource = .ok q) :
    q.origin = p.origin := by
  obtain ⟨same, -, h⟩ := Fault.exists_of_bind_eq_ok h
  cases same with
  | true => rw [← Except.ok.inj h]
  | false => rw [← Except.ok.inj h, origin_reset]

theorem origin_conclude (p : Pager) (name : JsonText) (a : Attempts) :
    (p.conclude name a).2.origin = p.origin := by
  rcases p.conclude_cases name a with ⟨_, _, _, h⟩ | ⟨_, -, h⟩
  · rw [h]
    rfl
  · rw [h]
    rfl

theorem origin_loadActive (p : Pager) (session : Session) (arguments : LoadArguments)
    (outcomes : List Outcome) : (p.loadActive session arguments outcomes).pager.origin = p.origin := by
  unfold loadActive
  cases p.plan arguments with
  | error fault => rfl
  | ok plan =>
    dsimp only
    cases target arguments with
    | error fault => rfl
    | ok name =>
      obtain ⟨status, -, hrun⟩ := exists_run_eq
        { p with status := if arguments.isRetry then .retrying else .loading } session name plan outcomes
      dsimp only
      rw [hrun, origin_conclude]
      rfl

/-- A load changes neither the default page size nor the first count strategy, whatever it is asked for and
whatever comes of it. -/
@[simp] theorem origin_load (p : Pager) (session : Session) (arguments : LoadArguments)
    (outcomes : List Outcome) : (p.load session arguments outcomes).pager.origin = p.origin := by
  unfold load
  split
  · rfl
  · rename_i q hq
    rw [origin_loadActive, origin_activate hq]

/-! ## Pagers with a history -/

/-- The pagers that a new one can become by loads and resets. -/
inductive Reachable (defaultSize : Int) (initial : CountStrategy) : Pager → Prop
  | start : Reachable defaultSize initial (start defaultSize initial)
  | load {p : Pager} (session : Session) (arguments : LoadArguments) (outcomes : List Outcome) :
    Reachable defaultSize initial p →
    Reachable defaultSize initial (p.load session arguments outcomes).pager
  | reset {p : Pager} (resource : Value) :
    Reachable defaultSize initial p → Reachable defaultSize initial (p.reset resource)

/-- No history changes what a pager was when it was new. -/
theorem origin_of_reachable {defaultSize : Int} {initial : CountStrategy} {p : Pager}
    (h : Reachable defaultSize initial p) : p.origin = start defaultSize initial := by
  induction h with
  | start => exact origin_start defaultSize initial
  | load session arguments outcomes _ ih => rw [origin_load, ih]
  | reset resource _ ih => rw [origin_reset, ih]

/-- A pager that is reset is a new one on the resource. -/
theorem reset_of_reachable {defaultSize : Int} {initial : CountStrategy} {p : Pager}
    (h : Reachable defaultSize initial p) (resource : Value) :
    p.reset resource = { start defaultSize initial with resource } :=
  congrArg ({ · with resource }) (origin_of_reachable h)

/-! ## The switch -/

theorem onResource_of_ne {p : Pager} {name : JsonText} (h : p.resource ≠ .textual name) :
    p.onResource name = p.reset (.textual name) := by
  rcases onResource_cases p name with ⟨hactive, -⟩ | hreset
  · exact absurd hactive h
  · exact hreset

/-- **A switch forgets the past.** A load on a resource that is not the active one is the load of a new pager with
the same default page size and first count strategy: its result, its requests, the outcomes it leaves and the pager
after it are the same. So is a load on a resource that the pager has been reset to. -/
theorem load_of_switch {defaultSize : Int} {initial : CountStrategy} {p : Pager}
    (hp : Reachable defaultSize initial p) (session : Session) {arguments : LoadArguments} {name : JsonText}
    (hname : arguments.resource = .textual name) (outcomes : List Outcome) :
    let fresh := (start defaultSize initial).load session arguments outcomes
    (p.resource ≠ .textual name → p.load session arguments outcomes = fresh) ∧
    (p.reset (.textual name)).load session arguments outcomes = fresh := by
  intro fresh
  have hfresh : fresh = ({ start defaultSize initial with resource := .textual name } : Pager).loadActive
      session arguments outcomes :=
    (start defaultSize initial).load_of_name session hname outcomes
  refine ⟨fun hother => ?_, ?_⟩
  · rw [p.load_of_name session hname, onResource_of_ne hother, reset_of_reachable hp, hfresh]
  · rw [(p.reset (.textual name)).load_of_name session hname, onResource_of_active rfl,
      reset_of_reachable hp, hfresh]

/-- A pager that has stepped down, failed and loaded rows on one resource loads the next as a new one does. -/
theorem load_of_switch_after_rejection :
    let session := Session.anonymous "https://host/svc"
    let p := (start 25 .count).load session { resource := .text "P" }
      [.json 400 "$count is not a valid option", .json 200 "[\x7b\"Price\": 10\x7d]"] |>.pager
    let arguments : LoadArguments := { resource := .text "Q", filters := [⟨.text "Price", .text "10", .null⟩] }
    let outcomes := [.json 200 "\x7b\"value\": []\x7d"]
    Reachable 25 .count p ∧ p.strategy = .inlinecount ∧ p.rows.length = 1 ∧ p.resource ≠ .text "Q" ∧
    arguments.resource = .text "Q" ∧
    p.load session arguments outcomes = (start 25 .count).load session arguments outcomes ∧
    (p.reset (.text "Q")).load session arguments outcomes =
      (start 25 .count).load session arguments outcomes := by
  intro session p arguments outcomes
  have hp : Reachable 25 .count p := .load _ _ _ .start
  have hname : arguments.resource = .text "Q" := rfl
  obtain ⟨hstrategy, hrows, hactive⟩ :
      p.strategy = .inlinecount ∧ p.rows.length = 1 ∧ p.resource.displayText = "P" := by
    decide +kernel
  have hother : p.resource ≠ .text "Q" := by
    intro h
    rw [h] at hactive
    exact absurd hactive (by decide)
  obtain ⟨hswitch, hreset⟩ := load_of_switch hp session hname outcomes
  exact ⟨hp, hstrategy, hrows, hother, hname, hswitch hother, hreset⟩

end ODataBrowser.Pager
