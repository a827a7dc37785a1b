import ODataBrowser.Proofs.Pager.Loading

/-!
# The requests of a load

`Pager.load_sent` says what a load sends, whatever the state of the pager and the answers: how many
requests, with which URLs, and when one more. Only a number that cannot be written, a filter that cannot be noted
and a filter with a lone surrogate in its text keep a load from sending anything.
-/

namespace ODataBrowser

open Query

/-! ## Noting the filters -/

/-- Whether a filter can be noted: unless it has no value, its field must be able to be a key. -/
def Query.Filter.CanBeNoted (f : Filter) : Prop :=
  isEmptyValue f.value = false → ∃ key, f.field.toKey = .ok key

theorem Query.describeFrom_ok_iff (entries : List (Scalar × Value)) (filters : List Filter) :
    (∃ noted, describeFrom entries filters = .ok noted) ↔ ∀ f ∈ filters, f.CanBeNoted := by
  induction filters generalizing entries with
  | nil => simp [describeFrom]
  | cons f rest ih =>
    rw [List.forall_mem_cons]
    cases hv : isEmptyValue f.value with
    | true =>
      have hf : f.CanBeNoted := fun h => absurd (hv.symm.trans h) (by simp)
      rw [describeFrom, if_pos hv, ih, and_iff_right hf]
    | false =>
      rw [describeFrom, if_neg (by simp [hv])]
      cases hk : f.field.toKey with
      | ok key =>
        have hf : f.CanBeNoted := fun _ => ⟨key, hk⟩
        rw [and_iff_right hf]
        exact ih _
      | error fault =>
        refine iff_of_false ?_ fun h => ?_
        · rintro ⟨noted, h⟩
          simp [bind, Except.bind] at h
        · obtain ⟨key, h'⟩ := h.1 hv
          exact absurd (hk.symm.trans h') (by simp)

namespace Pager

/-! ## The plan of integers -/

/-- The arguments of a load with an integer offset and a size that may be missing. -/
def integerArguments (name : JsonText) (skip : Int) (size : Option Int)
    (sorts : List (Option SortColumn)) (filters : List Filter) (isRetry : Bool) : LoadArguments where
  resource := .textual name
  skip := .int skip
  size := size.elim .null .int
  sorts
  filters
  isRetry

/-- The size of the page that a load asks for: zero stands for the default too. -/
def sizeFor (p : Pager) : Option Int → Int
  | some n => if n = 0 then p.defaultSize else n
  | none => p.defaultSize

theorem defaultSize_of_sizeFor {p : Pager} {size : Option Int} (h : p.sizeFor size = 0) :
    p.defaultSize = 0 := by
  cases size with
  | none => exact h
  | some n =>
    by_cases hn : n = 0
    · rwa [sizeFor, if_pos hn] at h
    · rw [sizeFor, if_neg hn] at h
      exact absurd h hn

/-- The plan of a load with integer arguments. -/
def integerPlan (p : Pager) (skip : Int) (size : Option Int) (orderBy : Option String) (filter : Option JsonText) :
    LoadPlan where
  skip := max skip 0
  size := p.sizeFor size
  orderBy
  filter
  asksCount := !p.initialized || max skip 0 == 0

theorem plan_integerArguments (p : Pager) (name : JsonText) (skip : Int) (size : Option Int)
    {sorts : List (Option SortColumn)} {filters : List Filter} (isRetry : Bool)
    {orderBy : Option String} {filter : Option JsonText} (horder : compileSorts sorts = .ok orderBy)
    (hfilter : compileFilterText p.types filters = .ok filter) :
    p.plan (integerArguments name skip size sorts filters isRetry) =
      .ok (p.integerPlan skip size orderBy filter) := by
  have hskip : ((Value.int skip).orElse (.int 0)).toInt = .ok skip := by
    by_cases h : skip = 0 <;> simp [Value.orElse, Value.isPresent, Scalar.isPresent, h, Value.toInt]
  have hsize : ((size.elim .null .int : Value).orElse (.int p.defaultSize)).toInt =
      .ok (p.sizeFor size) := by
    cases size with
    | none => rfl
    | some n =>
      by_cases h : n = 0 <;>
        simp [Value.orElse, Value.isPresent, Scalar.isPresent, h, Value.toInt, sizeFor]
  simp only [plan, integerArguments, hskip, hsize, horder, hfilter]
  rfl

theorem target_integerArguments (name : JsonText) (skip : Int) (size : Option Int)
    (sorts : List (Option SortColumn)) (filters : List Filter) (isRetry : Bool) :
    target (integerArguments name skip size sorts filters isRetry) =
      (describe filters).map fun _ => name := by
  unfold target integerArguments
  cases describe filters <;> rfl

/-! ## The requests -/

/-- The query of a load for its request with number `i`: that of the strategy `i` steps down. -/
def queryOf (p : Pager) (skip : Int) (size : Option Int) (orderBy : Option String) (filter : Option JsonText) (i : Nat) :
    PageQuery where
  top := some (p.sizeFor size)
  skip := some (max skip 0)
  orderBy := orderBy.map .string
  filter
  count := if p.initialized = true ∧ 0 < skip then none
    else (CountStrategy.down^[i] p.strategy).parameter?

variable (p : Pager) (session : Session) (name : JsonText) (skip : Int) (size : Option Int)
  (orderBy : Option String) (filter : Option JsonText)

theorem queryAt_integerPlan (i : Nat) :
    queryAt p.defaultSize (p.integerPlan skip size orderBy filter) p.strategy i =
      p.queryOf skip size orderBy filter i := by
  have hfixed : (p.integerPlan skip size orderBy filter).size = 0 → p.defaultSize = 0 :=
    defaultSize_of_sizeFor
  rw [queryAt, LoadPlan.again_iterate_of_size hfixed]
  have hasks : (p.integerPlan skip size orderBy filter).asksCount =
      !decide (p.initialized = true ∧ 0 < skip) := by
    cases h : p.initialized with
    | false => simp [integerPlan, h]
    | true =>
      rcases lt_or_ge 0 skip with hs | hs
      · simp [integerPlan, h, hs, max_eq_left hs.le, hs.ne']
      · simp [integerPlan, h, max_eq_right hs, not_lt.2 hs]
  simp only [LoadPlan.query, queryOf, hasks]
  by_cases h : p.initialized = true ∧ 0 < skip <;> simp [h, integerPlan]

/-- What the attempts of a load send, where the query without its counting option has a URL. -/
theorem attempts_of_bare {bare : JsonText} (outcomes : List Outcome)
    (hbare : (p.queryOf skip size orderBy filter 0).uncounted.toUrl (resourceUrl session.base name) =
      .ok bare) :
    let query := p.queryOf skip size orderBy filter
    let url (i : Nat) := bare ++ PageQuery.countSuffix (query i).count
    let a := attempts session name p.defaultSize (p.integerPlan skip size orderBy filter) p.strategy
      outcomes
    ∃ n ≤ p.strategy.stepsLeft,
      a.sent = (List.range (n + 1)).map (fun i => session.dataRequest (url i)) ∧
      a.pending = outcomes.drop (n + 1) ∧
      (∀ i, (query i).toUrl (resourceUrl session.base name) = .ok (url i)) ∧
      ∀ i ≤ n, (i < n ↔ Rejects (query i).count (Page.ofOutcome (outcomeAt outcomes i) (url i))) := by
  intro query url a
  obtain ⟨n, hn, hbefore, hlast, heq⟩ := attempts_eq session name p.defaultSize
    (p.integerPlan skip size orderBy filter) p.strategy outcomes
  have hurl : ∀ i, (query i).toUrl (resourceUrl session.base name) = .ok (url i) := by
    intro i
    rw [PageQuery.toUrl_eq_map_append]
    change ((p.queryOf skip size orderBy filter 0).uncounted.toUrl _).map _ = _
    rw [hbare]
    rfl
  have hurl' : ∀ i, (queryAt p.defaultSize (p.integerPlan skip size orderBy filter) p.strategy i).toUrl
      (resourceUrl session.base name) = .ok (url i) := by
    intro i
    rw [queryAt_integerPlan]
    exact hurl i
  have hcount : ∀ i, countAt (p.integerPlan skip size orderBy filter) p.strategy i = (query i).count := by
    intro i
    rw [← @queryAt_count p.defaultSize, queryAt_integerPlan]
  simp only [hcount, attemptAt_of_url (hurl' _)] at hbefore hlast
  refine ⟨n, hn, ?_, ?_, hurl, fun i hi => ⟨hbefore i, fun hr => ?_⟩⟩
  · simp only [a, heq, flatMap_sent_eq_map fun i _ => hurl' i]
  · simp only [a, heq, attemptAt_of_url (hurl' _)]
  · exact lt_of_le_of_ne hi fun h => hlast (h ▸ hr)

/-- Where the first query has no URL, the attempts of a load send nothing. -/
theorem attempts_of_no_url {fault : Fault} (outcomes : List Outcome)
    (h : (p.queryOf skip size orderBy filter 0).toUrl (resourceUrl session.base name) = .error fault) :
    let a := attempts session name p.defaultSize (p.integerPlan skip size orderBy filter) p.strategy
      outcomes
    a.sent = [] ∧ a.pending = outcomes := by
  intro a
  obtain ⟨n, -, hbefore, -, heq⟩ := attempts_eq session name p.defaultSize
    (p.integerPlan skip size orderBy filter) p.strategy outcomes
  rw [← queryAt_integerPlan] at h
  obtain rfl : n = 0 := by
    by_contra hn
    obtain ⟨url, hu⟩ := Session.exists_url_of_rejects (hbefore 0 (Nat.pos_of_ne_zero hn))
    exact absurd (h.symm.trans hu) (by simp)
  have hat : attemptAt session name p.defaultSize (p.integerPlan skip size orderBy filter) p.strategy
      outcomes 0 = ⟨.error fault, [], outcomes⟩ :=
    session.readPage_of_no_url h outcomes
  simp [a, heq, hat]

/-- A request has a URL just if the numbers of the load can be written and its filter is a string. -/
theorem exists_url_queryOf_iff (i : Nat) :
    (∃ url, (p.queryOf skip size orderBy filter i).toUrl (resourceUrl session.base name) = .ok url) ↔
      IsWritable (p.sizeFor size) ∧ IsWritable skip ∧ ∀ t ∈ filter, t.isString = true := by
  rw [← isWritable_max_zero (n := skip)]
  exact PageQuery.exists_toUrl_iff rfl rfl rfl _

/-- The queries of a load differ in the counting option alone, so all have a URL if one has. -/
theorem exists_bare_of_url {i : Nat} {url : JsonText}
    (h : (p.queryOf skip size orderBy filter i).toUrl (resourceUrl session.base name) = .ok url) :
    ∃ bare, (p.queryOf skip size orderBy filter 0).uncounted.toUrl (resourceUrl session.base name) = .ok bare := by
  rw [PageQuery.toUrl_eq_map_append] at h
  obtain ⟨bare, hbare, -⟩ := Fault.exists_of_map_eq_ok h
  exact ⟨bare, hbare⟩

/-- The attempts of a load send something just if the first request has a URL. -/
theorem attempts_sent_ne_nil_iff (outcomes : List Outcome) :
    (attempts session name p.defaultSize (p.integerPlan skip size orderBy filter) p.strategy outcomes).sent ≠ [] ↔
      ∃ url, (p.queryOf skip size orderBy filter 0).toUrl (resourceUrl session.base name) = .ok url := by
  cases hu : (p.queryOf skip size orderBy filter 0).toUrl (resourceUrl session.base name) with
  | error fault => simp [(attempts_of_no_url p session name skip size orderBy filter outcomes hu).1]
  | ok url =>
    obtain ⟨bare, hbare⟩ := exists_bare_of_url p session name skip size orderBy filter hu
    obtain ⟨n, -, hsent, -⟩ := attempts_of_bare p session name skip size orderBy filter outcomes hbare
    simp [hsent]

variable {p session name skip size orderBy filter}

/-- A load with integer arguments sends what its attempts send, or nothing if a filter cannot be noted. -/
theorem load_integerArguments {sorts : List (Option SortColumn)} {filters : List Filter}
    (isRetry : Bool) (outcomes : List Outcome) (horder : compileSorts sorts = .ok orderBy)
    (hfilter : compileFilterText (p.onResource name).types filters = .ok filter) :
    let q := p.onResource name
    let load := p.load session (integerArguments name skip size sorts filters isRetry) outcomes
    let a := attempts session name q.defaultSize (q.integerPlan skip size orderBy filter) q.strategy
      outcomes
    ((∀ f ∈ filters, f.CanBeNoted) ∧ load.sent = a.sent ∧ load.pending = a.pending) ∨
      (¬(∀ f ∈ filters, f.CanBeNoted) ∧ load.sent = [] ∧ load.pending = outcomes) := by
  intro q load a
  have hload : load =
      q.loadActive session (integerArguments name skip size sorts filters isRetry) outcomes :=
    p.load_of_name session rfl outcomes
  rw [hload, loadActive, q.plan_integerArguments name skip size isRetry horder hfilter,
    target_integerArguments]
  cases hn : describe filters with
  | ok noted =>
    have hnoted : ∀ f ∈ filters, f.CanBeNoted := (describeFrom_ok_iff [] filters).1 ⟨noted, hn⟩
    exact .inl ⟨hnoted, rfl, rfl⟩
  | error fault =>
    refine .inr ⟨fun hnoted => ?_, rfl, rfl⟩
    obtain ⟨noted, h⟩ := (describeFrom_ok_iff [] filters).2 hnoted
    exact absurd (hn.symm.trans h) (by simp)

/-- **The requests of a load.** It sends none just if a number cannot be written, a filter cannot be noted, or the
compiled filter is no string.
Otherwise it sends at most one more than there are steps down, each using up one outcome. Request `i` has the
counting option of the strategy `i` steps down, or none if the total is not asked for, and but for that all
have the same URL. One more is sent after a request just if the answer rejects its counting option. -/
theorem load_sent {sorts : List (Option SortColumn)} {filters : List Filter} {isRetry : Bool}
    {outcomes : List Outcome} (horder : compileSorts sorts = .ok orderBy)
    (hfilter : compileFilterText (p.onResource name).types filters = .ok filter) :
    let q := p.onResource name
    let query := q.queryOf skip size orderBy filter
    let load := p.load session (integerArguments name skip size sorts filters isRetry) outcomes
    (load.sent ≠ [] ↔
      (∀ f ∈ filters, f.CanBeNoted) ∧ IsWritable (q.sizeFor size) ∧ IsWritable skip ∧
        ∀ t ∈ filter, t.isString = true) ∧
    load.sent.length ≤ q.strategy.stepsLeft + 1 ∧
    load.pending = outcomes.drop load.sent.length ∧
    (∃ bare, ∀ i (hi : i < load.sent.length),
      (query i).toUrl (resourceUrl session.base name) = .ok load.sent[i].url ∧
      load.sent[i].url = bare ++ PageQuery.countSuffix (query i).count) ∧
    ∀ i (hi : i < load.sent.length), (i + 1 < load.sent.length ↔
      Rejects (query i).count (Page.ofOutcome (outcomeAt outcomes i) load.sent[i].url)) := by
  intro q query load
  let a := attempts session name q.defaultSize (q.integerPlan skip size orderBy filter) q.strategy outcomes
  have hurl : a.sent ≠ [] ↔ IsWritable (q.sizeFor size) ∧ IsWritable skip ∧ ∀ t ∈ filter, t.isString = true :=
    (attempts_sent_ne_nil_iff q session name skip size orderBy filter outcomes).trans
      (exists_url_queryOf_iff q session name skip size orderBy filter 0)
  have hcases : (∀ f ∈ filters, f.CanBeNoted) ∧ load.sent = a.sent ∧ load.pending = a.pending ∨
      ¬(∀ f ∈ filters, f.CanBeNoted) ∧ load.sent = [] ∧ load.pending = outcomes :=
    load_integerArguments isRetry outcomes horder hfilter
  rw [← hurl]
  rcases hcases with ⟨hnoted, hsent, hpending⟩ | ⟨hnoted, hsent, hpending⟩
  · rw [hsent, hpending, and_iff_right hnoted]
    refine ⟨Iff.rfl, ?_⟩
    cases hu : (query 0).toUrl (resourceUrl session.base name) with
    | error fault =>
      obtain ⟨hnone, hleft⟩ : a.sent = [] ∧ a.pending = outcomes :=
        attempts_of_no_url q session name skip size orderBy filter outcomes hu
      simp [hnone, hleft]
    | ok url =>
      obtain ⟨bare, hbare⟩ := exists_bare_of_url q session name skip size orderBy filter hu
      obtain ⟨n, hn, hall, hleft, hurls, hrejects⟩ :=
        attempts_of_bare q session name skip size orderBy filter outcomes hbare
      have hall : a.sent = (List.range (n + 1)).map fun i =>
          session.dataRequest (bare ++ PageQuery.countSuffix (query i).count) := hall
      have hlength : a.sent.length = n + 1 := by rw [hall, List.length_map, List.length_range]
      have hget : ∀ i (hi : i < a.sent.length), a.sent[i].url = bare ++ PageQuery.countSuffix (query i).count := by
        intro i hi
        simp only [hall, List.getElem_map, List.getElem_range]
        rfl
      refine ⟨by omega, by rw [hlength, ← hleft], ⟨bare, fun i hi => ?_⟩, fun i hi => ?_⟩
      · rw [hget i hi]
        exact ⟨hurls i, rfl⟩
      · rw [hget i hi, hlength, ← hrejects i (by omega)]
        omega
  · simp [hsent, hpending, hnoted]

/-- A service that knows neither counting option is asked three times, and the third time for no total. -/
theorem load_sent_of_two_rejections :
    let filters : List Filter := [⟨.text "Name", .text "Row", .null⟩]
    let outcomes : List Outcome := [
      .json 400 "\x7b\"message\": \"$count is NOT A VALID option\"\x7d",
      .json 400 "\x7b\"message\": \"$inlinecount is not a valid option\"\x7d",
      .json 200 "\x7b\"value\": []\x7d",
      .json 200 "\x7b\"value\": []\x7d"]
    let p := start 25 .count
    let load := p.load (.anonymous "https://host/svc") (integerArguments "Products" 0 none [] filters false)
      outcomes
    compileSorts [] = .ok none ∧
    compileFilterText (p.onResource "Products").types filters = .ok (some "substringof('Row',Name)") ∧
    load.sent.length = 3 ∧ load.pending = outcomes.drop 3 ∧
    ∃ bare : JsonText,
      load.sent.map (·.url) = [bare ++ "&$count=true", bare ++ "&$inlinecount=allpages", bare] := by
  intro filters outcomes p load
  have horder : compileSorts [] = .ok none := rfl
  have hfilter : compileFilterText (p.onResource "Products").types filters =
      .ok (some "substringof('Row',Name)") := Fault.eq_ok_of_toOption (by decide)
  have hlength : load.sent.length = 3 := by decide +kernel
  obtain ⟨-, -, hpending, ⟨bare, hurl⟩, -⟩ :=
    @load_sent p (.anonymous "https://host/svc") "Products" 0 none none
      (some "substringof('Row',Name)") [] filters false outcomes horder hfilter
  refine ⟨horder, hfilter, hlength, hlength ▸ hpending, bare, ?_⟩
  refine List.ext_getElem (by rw [List.length_map]; exact hlength) fun i hi _ => ?_
  rw [List.getElem_map, (hurl i (by simpa using hi)).2]
  have hi : i < 3 := by simpa [load, hlength] using hi
  match i with
  | 0 => rfl
  | 1 => rfl
  | 2 => exact JsonText.append_empty bare

/-- A page size of more digits than can be written keeps a load from sending anything. -/
theorem load_sends_nothing_of_long_size :
    let p := start 25 .count
    let load := p.load (.anonymous "https://host/svc")
      (integerArguments "Products" 0 (some (tenPow Numeral.maxDigits : Nat)) [] [] false) []
    compileSorts [] = .ok none ∧ compileFilterText (p.onResource "Products").types [] = .ok none ∧
    load.sent = [] := by
  intro p load
  refine ⟨rfl, rfl, ?_⟩
  have hlong : ¬IsWritable (p.sizeFor (some (tenPow Numeral.maxDigits : Nat))) := by
    rw [sizeFor, if_neg (Int.natCast_pos.2 (tenPow_pos _)).ne']
    exact lt_irrefl _
  rcases @load_integerArguments p (.anonymous "https://host/svc") "Products" 0
      (some (tenPow Numeral.maxDigits : Nat)) none none [] [] false [] rfl rfl with
    ⟨-, hsent, -⟩ | ⟨-, h, -⟩
  · rw [hsent]
    cases hu : ((p.onResource "Products").queryOf 0 (some (tenPow Numeral.maxDigits : Nat)) none none
        0).toUrl (resourceUrl "https://host/svc" "Products") with
    | ok url => exact absurd ((@PageQuery.exists_toUrl_iff _ _ _ none rfl rfl rfl _).1 ⟨url, hu⟩).1 hlong
    | error fault => exact (attempts_of_no_url _ (.anonymous "https://host/svc") _ _ _ _ _ [] hu).1
  · exact h

end Pager

end ODataBrowser
