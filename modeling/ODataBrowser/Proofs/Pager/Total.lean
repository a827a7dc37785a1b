import ODataBrowser.Proofs.Pager.Run

/-!
# The running total

The total after a run of loads follows from what its successful loads have shown (`Pager.after_total?`): from
the last total that the service gave, or else from the rows of the first page, it is raised to the end of
every later page that was loaded by the last resort (`Pager.total_of_loads`).
-/

namespace ODataBrowser

/-- What a successful load shows: the offset and the number of rows of its page, the total if the answer gives
it, and the count strategy after it. -/
structure Observation where
  offset : Int
  rows : Nat
  count : Option Int
  strategy : CountStrategy
deriving DecidableEq, Repr

namespace Observation

/-- The end of the page. -/
def reach (o : Observation) : Int :=
  o.offset + o.rows

/-- The total where nothing else is known of it. -/
def base (o : Observation) : Int :=
  o.count.getD o.rows

/-- Takes note of a page: the total after it, where there is none before the first page. -/
def note : Option Int → Observation → Option Int
  | none, o => some o.base
  | some total, o =>
    match o.count with
    | some count => some count
    | none => some (if o.strategy = .none then max total o.reach else total)

/-- The total raised to the ends of the pages that were loaded by the last resort. -/
def raised (total : Int) (later : List Observation) : Int :=
  ((later.filter (·.strategy = .none)).map reach).foldl max total

theorem note_eq_base {o : Observation} {total? : Option Int} (h : o.count = none → total? = none) :
    note total? o = some o.base := by
  cases hcount : o.count with
  | none => rw [h hcount, note]
  | some count => cases total? <;> simp [note, base, hcount]

theorem note_ne_none (total? : Option Int) (o : Observation) : note total? o ≠ none := by
  unfold note
  split
  · simp
  · split <;> simp

theorem raised_cons {o : Observation} (total : Int) (later : List Observation) :
    raised total (o :: later) = raised (if o.strategy = .none then max total o.reach else total) later := by
  by_cases hs : o.strategy = .none <;> simp [raised, hs]

theorem le_raised (total : Int) (later : List Observation) : total ≤ raised total later := by
  induction later generalizing total with
  | nil => exact le_rfl
  | cons o later ih =>
    rw [raised_cons]
    refine le_trans ?_ (ih _)
    split
    · exact le_max_left total o.reach
    · exact le_rfl

/-- Without further counts the total is only raised. -/
theorem foldl_note_of_uncounted {later : List Observation} (h : ∀ o ∈ later, o.count = none)
    (total : Int) : later.foldl note (some total) = some (raised total later) := by
  induction later generalizing total with
  | nil => rfl
  | cons o later ih =>
    rw [List.forall_mem_cons] at h
    rw [List.foldl_cons, raised_cons, ← ih h.2]
    simp only [note, h.1]

/-- The last page with a count, or the first page if none has one, and the pages after it. -/
theorem exists_last_count {obs : List Observation} (hne : obs ≠ []) :
    ∃ before o later, obs = before ++ o :: later ∧ (∀ x ∈ later, x.count = none) ∧
      (o.count = none → before = []) := by
  induction obs with
  | nil => contradiction
  | cons x obs ih =>
    -- If a later page has a count, the last such page is not this one.
    by_cases hrest : ∀ y ∈ obs, y.count = none
    · exact ⟨[], x, obs, rfl, hrest, fun _ => rfl⟩
    · have hobs : obs ≠ [] := by
        rintro rfl
        exact hrest (by simp)
      obtain ⟨before, o, later, rfl, hlater, hfirst⟩ := ih hobs
      refine ⟨x :: before, o, later, rfl, hlater, fun hnone => ?_⟩
      rw [hfirst hnone, List.nil_append, List.forall_mem_cons] at hrest
      exact absurd ⟨hnone, hlater⟩ hrest

end Observation

namespace Pager

variable (session : Session) (name : JsonText)

/-- The total of a pager, none before its first page. -/
def total? (p : Pager) : Option Int :=
  if p.initialized then some p.total else none

/-- What a call shows, nothing where its load fails. -/
def observation? (p : Pager) (call : PageCall) : Option Observation :=
  let load := p.loadOf session name call
  match load.result with
  | .ok _ => (load.page? call.outcomes).map fun page =>
    ⟨call.offset, page.rows.length, page.total, load.pager.strategy⟩
  | .error _ => none

/-- What a run shows. -/
def observations (p : Pager) : List PageCall → List Observation
  | [] => []
  | call :: calls => (p.observation? session name call).toList ++
      (p.loadOf session name call).pager.observations calls

variable {name}

/-- Applying a page takes note of it. -/
theorem total?_apply (p : Pager) (strategy : CountStrategy) (skip size : Int) (page : Page) :
    ((p.withStrategy strategy).apply skip size page).total? =
      Observation.note p.total? ⟨skip, page.rows.length, page.total, strategy⟩ := by
  have hinitialized : ((p.withStrategy strategy).apply skip size page).total? =
      some ((p.withStrategy strategy).totalAfter skip page) := rfl
  have hstrategy : (p.withStrategy strategy).strategy = strategy := rfl
  have htotal : (p.withStrategy strategy).total = p.total := rfl
  have hold : (p.withStrategy strategy).initialized = p.initialized := rfl
  rw [hinitialized, totalAfter, hstrategy, htotal, hold, total?]
  cases hp : p.initialized with
  | false => cases hcount : page.total <;> simp [Observation.note, Observation.base]
  | true => cases hcount : page.total <;> simp [Observation.note, Observation.reach]

/-- A load that fails leaves the total, and one that succeeds takes note of its page. -/
theorem observation?_cases {p : Pager} (hp : p.resource = .textual name) (call : PageCall) :
    let load := p.loadOf session name call
    load.result.isOk = false ∧ p.observation? session name call = none ∧
      load.pager.total = p.total ∧ load.pager.total? = p.total? ∨
    ∃ o, load.result.isOk = true ∧ p.observation? session name call = some o ∧
      load.pager.total? = o.note p.total? := by
  intro load
  unfold observation?
  rcases p.loadOf_cases session hp call with
    ⟨fault, strategy, status, lastError, hresult, hpager⟩ |
    ⟨strategy, size, page, hpage, hresult, hpager⟩
  · refine .inl ⟨?_, ?_, (congrArg total hpager).trans rfl, (congrArg total? hpager).trans rfl⟩
    · rw [show load.result = _ from hresult]
      rfl
    · simp only [hresult]
  · refine .inr ⟨⟨call.offset, page.rows.length, page.total, strategy⟩, ?_, ?_, ?_⟩
    · rw [show load.result = _ from hresult]
      rfl
    · simp only [hresult, hpage, Option.map_some]
      rw [hpager]
      rfl
    · rw [show load.pager = _ from hpager, total?_apply]

theorem loadOf_total? {p : Pager} (hp : p.resource = .textual name) (call : PageCall) :
    (p.loadOf session name call).pager.total? =
      (p.observation? session name call).toList.foldl Observation.note p.total? := by
  rcases observation?_cases session hp call with ⟨-, ho, -, htotal⟩ | ⟨o, -, ho, htotal⟩
  · rw [ho, htotal]
    rfl
  · rw [ho, htotal]
    rfl

/-- The total after a run is what its pages, noted one by one, come to. -/
theorem after_total? {p : Pager} (hp : p.resource = .textual name) (calls : List PageCall) :
    (p.after session name calls).total? =
      (p.observations session name calls).foldl Observation.note p.total? := by
  induction calls generalizing p with
  | nil => rfl
  | cons call calls ih =>
    rw [observations, List.foldl_append, ← loadOf_total? session hp]
    exact ih (loadOf_resource session hp call)

/-- Each load that succeeds shows one page. -/
theorem length_observations {p : Pager} (hp : p.resource = .textual name) (calls : List PageCall) :
    (p.observations session name calls).length =
      (p.loads session name calls).countP (·.result.isOk) := by
  induction calls generalizing p with
  | nil => rfl
  | cons call calls ih =>
    have hrest := ih (loadOf_resource session hp call)
    rw [observations, loads, List.length_append, hrest, List.countP_cons]
    rcases observation?_cases session hp call with ⟨hok, ho, -, -⟩ | ⟨o, hok, ho, -⟩
    · simp [hok, ho]
    · simp [hok, ho, Nat.add_comm]

theorem total_of_total? {p : Pager} {total : Int} (h : p.total? = some total) : p.total = total := by
  unfold total? at h
  split at h
  · exact Option.some.inj h
  · contradiction

/-- As long as no page was loaded, the total stays zero. -/
theorem after_total_of_total?_eq_none {p : Pager} (hp : p.resource = .textual name)
    (hzero : p.total? = none → p.total = 0) (calls : List PageCall)
    (h : (p.after session name calls).total? = none) : (p.after session name calls).total = 0 := by
  induction calls generalizing p with
  | nil => exact hzero h
  | cons call calls ih =>
    refine ih (loadOf_resource session hp call) ?_ h
    rcases observation?_cases session hp call with ⟨-, -, htotal, htotal?⟩ | ⟨o, -, -, htotal?⟩
    · rw [htotal, htotal?]
      exact hzero
    · rw [htotal?]
      exact fun hnone => absurd hnone (Observation.note_ne_none _ _)

/-- Without a count in its answers a run does not lower the total. -/
theorem total_le_of_uncounted {p : Pager} (hp : p.resource = .textual name)
    (hzero : p.total? = none → p.total = 0) {calls : List PageCall}
    (h : ∀ o ∈ p.observations session name calls, o.count = none) :
    p.total ≤ (p.after session name calls).total := by
  have hafter := after_total? session hp calls
  cases htotal? : p.total? with
  | some total =>
    rw [htotal?, Observation.foldl_note_of_uncounted h] at hafter
    rw [total_of_total? htotal?, total_of_total? hafter]
    exact Observation.le_raised _ _
  | none =>
    rw [hzero htotal?]
    rw [htotal?] at hafter
    cases hobs : p.observations session name calls with
    | nil =>
      rw [hobs] at hafter
      exact (after_total_of_total?_eq_none session hp hzero calls hafter).ge
    | cons o obs =>
      rw [hobs, List.forall_mem_cons] at h
      rw [hobs, List.foldl_cons, Observation.note, Observation.foldl_note_of_uncounted h.2] at hafter
      rw [total_of_total? hafter]
      refine le_trans ?_ (Observation.le_raised o.base obs)
      simp [Observation.base, h.1]

/-- **The total after a run.** -/
theorem total_of_loads (session : Session) (name : JsonText) (p : Pager) (calls : List PageCall) :
    let q := p.reset (.textual name)
    let obs := q.observations session name calls
    let final := q.after session name calls
    obs.length = (q.loads session name calls).countP (·.result.isOk) ∧
    (obs ≠ [] → ∃ before o later, obs = before ++ o :: later ∧ (∀ x ∈ later, x.count = none) ∧
      (o.count = none → before = []) ∧ final.total = Observation.raised o.base later) ∧
    (∀ first rest, calls = first ++ rest →
      (∀ x ∈ (q.after session name first).observations session name rest, x.count = none) →
      (q.after session name first).total ≤ final.total) ∧
    ∀ first call rest, calls = first ++ call :: rest →
      ((q.after session name first).loadOf session name call).result.isOk = false →
      (q.after session name (first ++ [call])).total = (q.after session name first).total := by
  intro q obs final
  have hq : q.resource = .textual name := rfl
  refine ⟨length_observations session hq calls, fun hobs => ?_, ?_, ?_⟩
  · obtain ⟨before, o, later, heq, hlater, hfirst⟩ := Observation.exists_last_count hobs
    refine ⟨before, o, later, heq, hlater, hfirst, total_of_total? ?_⟩
    have hbase : Observation.note (before.foldl Observation.note none) o = some o.base :=
      Observation.note_eq_base fun hnone => by rw [hfirst hnone, List.foldl_nil]
    have hafter : final.total? = obs.foldl Observation.note none := after_total? session hq calls
    rw [hafter, heq, List.foldl_append, List.foldl_cons, hbase,
      Observation.foldl_note_of_uncounted hlater]
  · rintro first rest rfl hrest
    have hzero := after_total_of_total?_eq_none session hq (fun _ => rfl) first
    have hle := total_le_of_uncounted session (after_resource session hq first) hzero hrest
    rwa [← after_append] at hle
  · rintro first call rest - hfail
    rw [after_append]
    rcases observation?_cases session (after_resource session hq first) call with
      ⟨-, -, htotal, -⟩ | ⟨o, hok, -⟩
    · exact htotal
    · exact absurd (hfail.symm.trans hok) (by simp)

/-- A first page of two rows, a load that fails, and a page of one row at offset 25, all without counts. -/
example :
    let calls : List PageCall := [
      { outcomes := [.json 400 "$count is not a valid option", .json 400 "$inlinecount is not a valid option",
          .json 200 "[\x7b\x7d, \x7b\x7d]"] },
      { skip := .int 100, outcomes := [.json 500 "down"] },
      { skip := .int 25, outcomes := [.json 200 "[\x7b\x7d]"] }]
    ((start 25 .count).after (.anonymous "https://host/svc") "P" calls).total = 26 := by
  decide +kernel

end Pager

end ODataBrowser
