import ODataBrowser.Proofs.Pager.Run

/-!
# The estimated total

A page that was loaded by the last resort and without a count leaves the total an estimate. On the first page the
estimate is the number of rows, wherever the page starts; every later page raises it to the end of the page
(`Pager.loadOf_total_of_estimate`), and nothing lowers it (`Pager.total_le_after`). So it never falls short of a page
that was shown, unless that is the first page and starts behind other rows (`Pager.end_le_total_of_loads`).
-/

namespace ODataBrowser

/-- Whether a load leaves the total an estimate, should it succeed: no total was observed, and none can be had. -/
def Load.isEstimate (load : Load) : Bool :=
  match load.result with
  | .ok page => page.strategy == .none && !page.countObserved
  | .error _ => true

/-- The end of a page: the offset of the row behind it. -/
def PageResult.reach (page : PageResult) : Int :=
  page.skip + page.rows.length

namespace Pager

variable (session : Session) {name : JsonText}

/-! ## One load -/

/-- No page starts at a negative offset. -/
theorem loadOf_skip_nonneg {p : Pager} (hp : p.resource = .textual name) {call : PageCall} {page : PageResult}
    (hpage : (p.loadOf session name call).result = .ok page) : 0 ≤ page.skip := by
  rcases p.loadOf_cases session hp call with ⟨_, _, _, _, hresult, -⟩ | ⟨_, _, _, -, hresult, hpager⟩
  · exact absurd (hpage.symm.trans hresult) nofun
  · rw [Except.ok.inj (hpage.symm.trans hresult), hpager]
    exact le_max_right _ 0

/-- The first page makes the estimate its number of rows, a later one raises it to its end. -/
theorem loadOf_total_of_estimate {p : Pager} (hp : p.resource = .textual name) {call : PageCall} {page : PageResult}
    (hestimate : (p.loadOf session name call).isEstimate = true)
    (hpage : (p.loadOf session name call).result = .ok page) :
    (p.loadOf session name call).pager.total =
      if p.initialized then max p.total page.reach else page.rows.length := by
  rcases p.loadOf_cases session hp call with ⟨_, _, _, _, hresult, -⟩ | ⟨strategy, _, answer, -, hresult, hpager⟩
  · exact absurd (hpage.symm.trans hresult) nofun
  · have hshown : page = _ := Except.ok.inj (hpage.symm.trans hresult)
    rw [Load.isEstimate, hresult, hpager] at hestimate
    rw [hshown, hpager]
    obtain ⟨hstrategy, hcount⟩ : strategy = .none ∧ answer.total = none := by
      simpa [result, apply, Pager.strategy, withStrategy] using hestimate
    subst hstrategy
    cases hinitialized : p.initialized <;>
      simp [PageResult.reach, result, apply, totalAfter, Pager.strategy, withStrategy, hcount, hinitialized]

/-- A load that fails leaves the total. -/
theorem loadOf_total_of_failed {p : Pager} (hp : p.resource = .textual name) {call : PageCall} {fault : Fault}
    (hfail : (p.loadOf session name call).result = .error fault) :
    (p.loadOf session name call).pager.total = p.total := by
  rcases p.loadOf_cases session hp call with ⟨_, _, _, _, -, hpager⟩ | ⟨_, _, _, -, hresult, -⟩
  · rw [hpager]
    rfl
  · exact absurd (hfail.symm.trans hresult) nofun

/-- A page has been loaded after a load if one was before it, or the load succeeds. -/
theorem loadOf_initialized {p : Pager} (hp : p.resource = .textual name) (call : PageCall) :
    (p.loadOf session name call).pager.initialized =
      (p.initialized || (p.loadOf session name call).result.isOk) := by
  rcases p.loadOf_cases session hp call with ⟨_, _, _, _, hresult, hpager⟩ | ⟨_, _, _, -, hresult, hpager⟩
  · rw [hresult, hpager]
    exact (Bool.or_false _).symm
  · rw [hresult, hpager]
    exact (Bool.or_true _).symm

/-! ## Runs -/

theorem after_initialized {p : Pager} (hp : p.resource = .textual name) (calls : List PageCall) :
    (p.after session name calls).initialized =
      (p.initialized || (p.loads session name calls).any (·.result.isOk)) := by
  induction calls generalizing p with
  | nil => exact (Bool.or_false _).symm
  | cons call calls ih =>
    rw [loads, List.any_cons, ← Bool.or_assoc, ← loadOf_initialized session hp]
    exact ih (loadOf_resource session hp call)

/-- Once a page has been loaded, an estimate is never lowered. -/
theorem total_le_after {p : Pager} (hp : p.resource = .textual name) (hinitialized : p.initialized = true)
    {calls : List PageCall} (h : ∀ load ∈ p.loads session name calls, load.isEstimate = true) :
    p.total ≤ (p.after session name calls).total := by
  induction calls generalizing p with
  | nil => exact le_rfl
  | cons call calls ih =>
    rw [loads, List.forall_mem_cons] at h
    have hlater := ih (loadOf_resource session hp call) (by rw [loadOf_initialized session hp, hinitialized]; rfl) h.2
    refine le_trans ?_ hlater
    cases hresult : (p.loadOf session name call).result with
    | error fault => exact (loadOf_total_of_failed session hp hresult).ge
    | ok page =>
      rw [loadOf_total_of_estimate session hp h.1 hresult, if_pos hinitialized]
      exact le_max_left _ _

/-- **An estimate covers the pages that were shown.** After a run of loads by the last resort, none of which observed
a count, the total is at least the number of rows of every page that was loaded, and at least the end of each that
starts at the first row or was not the first page to be loaded. -/
theorem end_le_total_of_loads (session : Session) (name : JsonText) (p : Pager) (calls : List PageCall)
    (h : ∀ load ∈ (p.reset (.textual name)).loads session name calls, load.isEstimate = true) :
    let q := p.reset (.textual name)
    let total := (q.after session name calls).total
    ∀ earlier call later, calls = earlier ++ call :: later → ∀ page,
      ((q.after session name earlier).loadOf session name call).result = .ok page →
      page.rows.length ≤ total ∧
      (page.skip = 0 ∨ (∃ load ∈ q.loads session name earlier, load.result.isOk = true) →
        page.reach ≤ total) := by
  rintro q total earlier call later rfl page hpage
  let before := q.after session name earlier
  let load := before.loadOf session name call
  have hbefore : before.resource = .textual name := after_resource session rfl earlier
  have hload : load.pager.resource = .textual name := loadOf_resource session hbefore call
  have hsplit : q.loads session name (earlier ++ call :: later) =
      q.loads session name earlier ++ load :: load.pager.loads session name later := loads_append q _ _
  have htotal : total = (load.pager.after session name later).total :=
    congrArg Pager.total (after_append q earlier (call :: later))
  rw [hsplit, List.forall_mem_append, List.forall_mem_cons] at h
  obtain ⟨-, hestimate, hrest⟩ := h
  have hloaded : load.pager.initialized = true := by
    rw [loadOf_initialized session hbefore, hpage]
    exact Bool.or_true _
  have hkept : load.pager.total ≤ total := htotal ▸ total_le_after session hload hloaded hrest
  have hstep : load.pager.total = _ := loadOf_total_of_estimate session hbefore hestimate hpage
  have hskip := loadOf_skip_nonneg session hbefore hpage
  have hreach : page.reach = page.skip + page.rows.length := rfl
  cases hinitialized : before.initialized with
  | true =>
    rw [if_pos hinitialized] at hstep
    have hend : page.reach ≤ load.pager.total := hstep ▸ le_max_right _ _
    exact ⟨by omega, fun _ => hend.trans hkept⟩
  | false =>
    rw [if_neg (by simp [hinitialized])] at hstep
    refine ⟨hstep ▸ hkept, ?_⟩
    rintro (hzero | ⟨loaded, hmem, hok⟩)
    · omega
    · -- A page that was loaded before would have left the pager initialized.
      have hnone : before.initialized = _ := after_initialized session (p := q) rfl earlier
      rw [hinitialized, eq_comm, Bool.or_eq_false_iff, List.any_eq_false] at hnone
      exact absurd hok (hnone.2 loaded hmem)

/-- A run that starts behind fifty rows. The total is at least the end of its second page. -/
theorem end_le_total_of_second_page :
    let session := Session.anonymous "https://host/svc"
    let q := (start 25 .none).reset (.text "P")
    let first : PageCall := { skip := .int 50, outcomes := [.json 200 "[\x7b\x7d, \x7b\x7d]"] }
    let second : PageCall := { skip := .int 75, outcomes := [.json 200 "[\x7b\x7d]"] }
    (∀ load ∈ q.loads session "P" [first, second], load.isEstimate = true) ∧
    ∃ page, ((q.after session "P" [first]).loadOf session "P" second).result = .ok page ∧
      page.reach = 76 ∧
      page.reach ≤ (q.after session "P" [first, second]).total := by
  intro session q first second
  have hestimate : ∀ load ∈ q.loads session "P" [first, second], load.isEstimate = true := by decide +kernel
  have hend : ((q.after session "P" [first]).loadOf session "P" second).result.toOption.map
      PageResult.reach = some 76 := by decide +kernel
  have hloaded : ∃ load ∈ q.loads session "P" [first], load.result.isOk = true := by decide +kernel
  obtain ⟨page, hpage, hpageEnd⟩ := Option.map_eq_some_iff.1 hend
  have hresult := Fault.eq_ok_of_toOption hpage
  exact ⟨hestimate, page, hresult, hpageEnd,
    (end_le_total_of_loads session "P" (start 25 .none) [first, second] hestimate [first] second [] rfl page
      hresult).2 (.inr hloaded)⟩

/-- The first page of a run does not raise the total to its end: two rows behind fifty others are shown as two. -/
theorem total_lt_end_of_first_page :
    let load := ((start 25 .none).reset (.text "P")).loadOf (.anonymous "https://host/svc") "P"
      { skip := .int 50, outcomes := [.json 200 "[\x7b\x7d, \x7b\x7d]"] }
    load.isEstimate = true ∧ load.pager.total = 2 ∧
      load.result.toOption.map PageResult.reach = some 52 := by
  decide +kernel

end Pager

end ODataBrowser
