import Mathlib.Data.List.Forall2
import ODataBrowser.Proofs.Pager.Run
import ODataBrowser.Proofs.Pager.Settling
import ODataBrowser.Proofs.Service.Paging

/-!
# Browsing all pages

A loop loads the first page of a resource and goes on behind each page until one is exhausted (`Pager.browse`). From
a service that answers with pages it gets all rows in order, and the total it ends with is their number
(`Pager.browse_complete`). What the pager knows of the total on the way is the invariant `Pager.Knows`.
-/

namespace ODataBrowser

open Query

/-- Whether a service with these rows answers all requests of a load. -/
def Load.IsServed (load : Load) (data : List Value) (address : JsonText) (outcomes : List Outcome) : Prop :=
  ∀ i (hi : i < load.sent.length), Serves data address load.sent[i].url (outcomeAt outcomes i)

/-- A load is served if each of its requests is answered by the outcome in its place. -/
theorem Load.isServed_of_forall₂ {load : Load} {data : List Value} {address : JsonText} {outcomes : List Outcome}
    (h : List.Forall₂ (Serves data address) (load.sent.map (·.url)) outcomes) :
    load.IsServed data address outcomes := by
  intro i hi
  have hlength := h.length_eq
  rw [List.length_map] at hlength
  have hi' : i < outcomes.length := hlength ▸ hi
  have hget := h.get (by simpa using hi) hi'
  rw [List.get_eq_getElem, List.get_eq_getElem, List.getElem_map] at hget
  simpa [outcomeAt, List.getD_eq_getElem?_getD, hi'] using hget

namespace Pager

variable (session : Session) (name : JsonText) (size : Nat)

/-! ## The loop -/

/-- The load of a page. -/
def pageAt (p : Pager) (offset : Int) (outcomes : List Outcome) : Load :=
  p.load session (integerArguments name offset (some size) [] [] false) outcomes

/-- The load with the given number of a loop that starts with the first page and goes on behind each page that is
not exhausted, none where the loop has ended before. Its requests come to the outcomes with its number. -/
def browse (p : Pager) (answers : Nat → List Outcome) : Nat → Option Load
  | 0 => some (p.pageAt session name size 0 (answers 0))
  | k + 1 => (p.browse answers k).bind fun load =>
    match load.result with
    | .ok page =>
      if page.exhausted then none
      else some (load.pager.pageAt session name size (page.skip + page.size) (answers (k + 1)))
    | .error _ => none

/-! ## One page -/

/-- What a pager knows of the total, once it has loaded the pages up to an offset: all, or as much as it has seen
where it can have no count. -/
def Knows (p : Pager) (data : List Value) (offset : Nat) : Prop :=
  if p.initialized then p.total = data.length ∨ p.strategy = .none ∧ p.total = min offset data.length
  else offset = 0

theorem queryOf_eq_plain (p : Pager) (skip : Int) (size : Option Int) (i : Nat) :
    p.queryOf skip size none none i = .plain (p.sizeFor size) (max skip 0)
      (if p.initialized = true ∧ 0 < skip then .none else CountStrategy.down^[i] p.strategy) := by
  unfold queryOf PageQuery.plain
  split <;> rfl

variable {session name size}

/-- A served load applies the page that it asks for. Without the total in the answer, no counting option was left or
none was sent. -/
theorem pageAt_of_served {p : Pager} {data : List Value} {offset : Nat} {outcomes : List Outcome}
    (hsize : 0 < size) (hwritable : IsWritable size) (hoffset : IsWritable offset)
    (hserved : (p.pageAt session name size offset outcomes).IsServed data (resourceUrl session.base name) outcomes) :
    let q := p.onResource name
    let load := p.pageAt session name size offset outcomes
    ∃ (strategy : CountStrategy) (page : Page), page.rows = (data.drop offset).take size ∧
      load.pager = (q.withStrategy strategy).apply offset size page ∧
      load.result = .ok (load.pager.result name page.total.isSome) ∧
      (page.total = some (data.length : Int) ∨ page.total = none ∧
        strategy = if q.initialized = true ∧ 0 < offset then q.strategy else .none) := by
  intro q load
  have hsizeFor : q.sizeFor (some (size : Int)) = size := if_neg (Int.natCast_pos.2 hsize).ne'
  have hmax : max (offset : Int) 0 = offset := max_eq_left (Int.natCast_nonneg offset)
  obtain ⟨status, a, -, hload, hcases⟩ :=
    p.load_plain_cases session name offset (some (size : Int)) false outcomes
  have hload : load = _ := hload
  simp only [queryOf_eq_plain, hmax, Int.natCast_pos] at hcases
  rw [show (p.onResource name).sizeFor (some (size : Int)) = size from hsizeFor] at hcases
  rcases hcases with ⟨-, -, hnumbers⟩ | ⟨-, -, n, url, rfl, hrequests⟩
  · exact absurd ⟨hwritable, hoffset⟩ hnumbers
  · have hlast : Serves data (resourceUrl session.base name) (url n) (outcomeAt outcomes n) := by
      have hsent : load.sent = (List.range (n + 1)).map fun i => session.dataRequest (url i) := by rw [hload]
      have hserved : ∀ i (hi : i < load.sent.length), Serves data _ load.sent[i].url _ := hserved
      have h := hserved n (by simp [hsent])
      simp only [hsent, List.getElem_map, List.getElem_range] at h
      exact h
    obtain ⟨hurl, hrejects⟩ := hrequests n le_rfl
    rcases hlast.page_or_rejects hsize hurl with hpage | hrejected
    · obtain ⟨total, hanswer, htotal, hcounted⟩ := hpage.exists_page (url n)
      have happly : load.pager = (q.withStrategy (CountStrategy.down^[n] q.strategy)).apply offset size
          ⟨(data.drop offset).take size, total, url n⟩ ∧
          load.result = .ok (load.pager.result name total.isSome) := by
        rw [hload, conclude, hanswer]
        dsimp only
        rw [integerPlan, hmax, hsizeFor]
        exact ⟨rfl, rfl⟩
      refine ⟨_, ⟨(data.drop offset).take size, total, url n⟩, rfl, happly.1, happly.2, ?_⟩
      refine htotal.symm.imp_right fun hnone => ⟨hnone, ?_⟩
      by_cases hlater : q.initialized = true ∧ 0 < offset
      · -- No counting option is sent, so none is rejected.
        rw [if_pos hlater]
        cases n with
        | zero => rfl
        | succ n =>
          obtain ⟨_, _, _, hcount, -⟩ := (hrequests 0 (Nat.zero_le _)).2.1 (Nat.succ_pos n)
          rw [if_pos hlater] at hcount
          cases hcount
      · rw [if_neg hlater] at hcounted ⊢
        by_contra hne
        exact absurd ((hcounted hne).symm.trans hnone) (by simp)
    · exact absurd (hrejects.2 hrejected) (lt_irrefl n)

/-- Applying a page that a service answers with keeps the invariant. -/
theorem Knows.apply {q : Pager} {data : List Value} {offset : Nat} (h : q.Knows data offset)
    (hoffset : offset ≤ data.length) {strategy : CountStrategy} {page : Page}
    (hrows : page.rows = (data.drop offset).take size)
    (hcount : page.total = some (data.length : Int) ∨ page.total = none ∧
      strategy = if q.initialized = true ∧ 0 < offset then q.strategy else .none) :
    ((q.withStrategy strategy).apply offset size page).Knows data (offset + size) := by
  have hlength : page.rows.length = min size (data.length - offset) := by
    rw [hrows, List.length_take, List.length_drop]
  have htotal : ((q.withStrategy strategy).apply offset size page).total =
      (q.withStrategy strategy).totalAfter offset page := rfl
  have hinitialized : ((q.withStrategy strategy).apply offset size page).initialized = true := rfl
  rw [Knows, if_pos hinitialized, htotal]
  change _ ∨ strategy = .none ∧ _
  rcases hcount with hsome | ⟨hnone, hstrategy⟩
  · exact .inl (by rw [totalAfter, hsome])
  · have hafter : (q.withStrategy strategy).totalAfter offset page =
        if !q.initialized then (page.rows.length : Int)
        else if strategy = .none then max q.total (offset + page.rows.length) else q.total := by
      rw [totalAfter, hnone]
      rfl
    rw [hafter]
    cases hinitialized : q.initialized with
    | false =>
      rw [Knows, hinitialized] at h
      obtain rfl : offset = 0 := h
      refine .inr ⟨by simpa [hinitialized] using hstrategy, ?_⟩
      simp only [Bool.not_false, if_true]
      omega
    | true =>
      rw [Knows, if_pos hinitialized] at h
      simp only [Bool.not_true, Bool.false_eq_true, if_false]
      by_cases hlast : strategy = .none
      · rw [if_pos hlast]
        rcases h with hall | ⟨-, hseen⟩
        · exact .inl (by omega)
        · exact .inr ⟨hlast, by omega⟩
      · rw [if_neg hlast]
        refine .inl (h.resolve_right fun ⟨hq, _⟩ => hlast ?_)
        rw [hstrategy, hq]
        split <;> rfl

/-- Whether a load has come to the page of some rows at an offset. -/
structure Shows (load : Load) (name : JsonText) (size : Nat) (data : List Value) (offset : Nat) : Prop where
  result : ∃ observed, load.result = .ok (load.pager.result name observed)
  resource : load.pager.resource = .textual name
  rows : load.pager.rows = (data.drop offset).take size
  pageSkip : load.pager.skip = offset
  pageSize : load.pager.size = size
  initialized : load.pager.initialized = true
  knows : load.pager.Knows data (offset + size)

theorem pageAt_shows {p : Pager} {data : List Value} {offset : Nat} {outcomes : List Outcome}
    (hsize : 0 < size) (hwritable : IsWritable (size : Int)) (hlength : IsWritable (data.length : Int))
    (hoffset : offset ≤ data.length) (hknows : (p.onResource name).Knows data offset)
    (hserved : (p.pageAt session name size offset outcomes).IsServed data (resourceUrl session.base name) outcomes) :
    Shows (p.pageAt session name size offset outcomes) name size data offset := by
  have hwritten : IsWritable offset := lt_of_le_of_lt (Int.ofNat_le.2 hoffset) hlength
  obtain ⟨strategy, page, hrows, hpager, hresult, hcount⟩ := pageAt_of_served hsize hwritable hwritten hserved
  refine ⟨⟨_, hresult⟩, ?_, ?_, ?_, ?_, ?_, ?_⟩ <;> rw [hpager]
  · exact onResource_resource p name
  · exact hrows
  · rfl
  · rfl
  · rfl
  · exact hknows.apply hoffset hrows hcount

/-! ## All pages -/

/-- A page is exhausted just if fewer rows than a page holds are left at its offset. -/
theorem Shows.exhausted_iff {load : Load} {data : List Value} {offset : Nat}
    (h : Shows load name size data offset) (observed : Bool) :
    (load.pager.result name observed).exhausted = true ↔ data.length - offset < size := by
  have hrows : (load.pager.result name observed).rows = (data.drop offset).take size := h.rows
  have hsize : (load.pager.result name observed).size = size := h.pageSize
  rw [PageResult.exhausted, hrows, hsize, decide_eq_true_iff, List.length_take, List.length_drop]
  omega

/-- What the loop does behind a page: it ends, or loads the next page. -/
theorem browse_succ {p : Pager} {data : List Value} {answers : Nat → List Outcome} {k offset : Nat} {load : Load}
    (hload : p.browse session name size answers k = some load) (hshows : Shows load name size data offset) :
    p.browse session name size answers (k + 1) =
      if data.length - offset < size then none
      else some (load.pager.pageAt session name size (offset + size : Nat) (answers (k + 1))) := by
  obtain ⟨observed, hresult⟩ := hshows.result
  have hskip : (load.pager.result name observed).skip = offset := hshows.pageSkip
  have hsize : (load.pager.result name observed).size = size := hshows.pageSize
  rw [browse, hload, Option.bind_some, hresult]
  dsimp only
  rw [hskip, hsize]
  exact if_congr (hshows.exhausted_iff observed) rfl rfl

/-- The loop reaches every page that starts within the rows or right behind them. -/
theorem browse_shows {p : Pager} {data : List Value} {answers : Nat → List Outcome}
    (hfresh : (p.onResource name).initialized = false) (hsize : 0 < size)
    (hwritable : IsWritable (size : Int)) (hlength : IsWritable (data.length : Int))
    (hserved : ∀ k load, p.browse session name size answers k = some load →
      load.IsServed data (resourceUrl session.base name) (answers k))
    {k : Nat} (hk : k * size ≤ data.length) :
    ∃ load, p.browse session name size answers k = some load ∧ Shows load name size data (k * size) := by
  induction k with
  | zero =>
    have hknows : (p.onResource name).Knows data 0 := by rw [Knows, hfresh]; rfl
    refine ⟨_, rfl, ?_⟩
    rw [Nat.zero_mul] at hk ⊢
    exact pageAt_shows hsize hwritable hlength hk hknows (hserved 0 _ rfl)
  | succ k ih =>
    rw [Nat.add_mul, Nat.one_mul] at hk ⊢
    obtain ⟨load, hload, hshows⟩ := ih (le_trans (Nat.le_add_right _ _) hk)
    have hnext := browse_succ hload hshows
    rw [if_neg (by omega)] at hnext
    have hknows : (load.pager.onResource name).Knows data (k * size + size) := by
      rw [onResource_of_active hshows.resource]
      exact hshows.knows
    exact ⟨_, hnext, pageAt_shows hsize hwritable hlength hk hknows (hserved (k + 1) _ hnext)⟩

theorem browse_eq_none_of_le {p : Pager} {answers : Nat → List Outcome} {m k : Nat}
    (h : p.browse session name size answers m = none) (hle : m ≤ k) :
    p.browse session name size answers k = none := by
  induction hle with
  | refl => exact h
  | step _ ih => rw [browse, ih]; rfl

/-- Consecutive pages are the rows up to the end of the last one. -/
theorem flatMap_pages (data : List Value) (size m : Nat) :
    ((List.range m).flatMap fun k => (data.drop (k * size)).take size) = data.take (m * size) := by
  induction m with
  | zero => simp
  | succ m ih => rw [List.range_succ, List.flatMap_append, ih, Nat.succ_mul, List.take_add]; simp

/-- **Browsing gets all rows.** From a service that answers with pages of some rows, the loop of a new pager ends
without an error, one page behind the full ones. Its pages are the rows in order, and the total is their number at
the end. -/
theorem browse_complete {defaultSize : Int} {initial : CountStrategy} {data : List Value}
    {answers : Nat → List Outcome} (hsize : 0 < size) (hwritable : IsWritable (size : Int))
    (hlength : IsWritable (data.length : Int))
    (hserved : ∀ k load, (start defaultSize initial).browse session name size answers k = some load →
      load.IsServed data (resourceUrl session.base name) (answers k)) :
    ∃ loads : List Load, (∀ k, (start defaultSize initial).browse session name size answers k = loads[k]?) ∧
      loads.length = data.length / size + 1 ∧ (∀ load ∈ loads, load.result.isOk = true) ∧
      loads.flatMap Load.rows = data ∧
      ∃ last, loads.getLast? = some last ∧ last.pager.total = data.length := by
  have hfresh : ((start defaultSize initial).onResource name).initialized = false := rfl
  let m := data.length / size
  have hstarts : ∀ k ≤ m, k * size ≤ data.length := fun k hk =>
    le_trans (Nat.mul_le_mul_right size hk) (Nat.div_mul_le_self _ _)
  have hends : data.length < (m + 1) * size := by
    rw [Nat.mul_comm]
    exact Nat.lt_mul_div_succ _ hsize
  rw [Nat.add_mul, Nat.one_mul] at hends
  have hpages : ∀ k ≤ m, ∃ load, (start defaultSize initial).browse session name size answers k = some load ∧
      Shows load name size data (k * size) := fun k hk =>
    browse_shows hfresh hsize hwritable hlength hserved (hstarts k hk)
  have : Nonempty Load := ⟨(start defaultSize initial).pageAt session name size 0 (answers 0)⟩
  choose! load hload hshows using hpages
  have hend : (start defaultSize initial).browse session name size answers (m + 1) = none := by
    rw [browse_succ (hload m le_rfl) (hshows m le_rfl)]
    exact if_pos (by omega)
  refine ⟨(List.range (m + 1)).map load, fun k => ?_, by simp [m], fun l hl => ?_, ?_, load m, ?_, ?_⟩
  · rcases Nat.lt_or_ge k (m + 1) with hk | hk
    · simp [hload k (Nat.le_of_lt_succ hk), hk]
    · rw [browse_eq_none_of_le hend hk, List.getElem?_eq_none (by simpa using hk)]
  · obtain ⟨k, hk, rfl⟩ := List.mem_map.1 hl
    obtain ⟨observed, hresult⟩ := (hshows k (by simpa [Nat.lt_succ_iff] using hk)).result
    rw [hresult]
    rfl
  · have hrows : ∀ k ∈ List.range (m + 1), (load k).rows = (data.drop (k * size)).take size := by
      intro k hk
      have hk : k ≤ m := by simpa [Nat.lt_succ_iff] using hk
      obtain ⟨observed, hresult⟩ := (hshows k hk).result
      rw [Load.rows, hresult]
      exact (hshows k hk).rows
    rw [List.flatMap_map, List.flatMap_congr hrows, flatMap_pages]
    exact List.take_of_length_le (by rw [Nat.add_mul, Nat.one_mul]; omega)
  · rw [List.range_succ, List.map_append]
    simp
  · have hknows := (hshows m le_rfl).knows
    rw [Knows, if_pos (hshows m le_rfl).initialized] at hknows
    omega

/-- Three rows in pages of two, from a service that rejects `$count`, gives the total for `$inlinecount` and has bare
arrays on later pages. -/
theorem browse_complete_of_three_rows :
    let session := Session.anonymous "https://host/svc"
    let data : List Value := [.int 1, .int 2, .int 3]
    let answers (k : Nat) : List Outcome :=
      if k = 0 then [.json 400 "$count is not a valid option",
        .json 200 "\x7b\"d\": \x7b\"results\": [1, 2], \"__count\": \"3\"\x7d\x7d"]
      else [.json 200 "[3]"]
    let browse := (start 25 .count).browse session "P" 2 answers
    0 < 2 ∧ IsWritable (2 : Nat) ∧ IsWritable data.length ∧
    (∀ k load, browse k = some load → load.IsServed data (resourceUrl session.base "P") (answers k)) ∧
    ∃ loads : List Load, (∀ k, browse k = loads[k]?) ∧ loads.length = data.length / 2 + 1 ∧
      (∀ load ∈ loads, load.result.isOk = true) ∧ loads.flatMap Load.rows = data ∧
      ∃ last, loads.getLast? = some last ∧ last.pager.total = data.length := by
  intro session data answers browse
  have hsize : 0 < 2 := by decide
  have hwritable : IsWritable (2 : Nat) := by unfold IsWritable; decide +kernel
  have hlength : IsWritable data.length := by unfold IsWritable; decide +kernel
  have hserved : ∀ k load, browse k = some load →
      load.IsServed data (resourceUrl session.base "P") (answers k) := by
    let address := resourceUrl session.base "P"
    have hrejection : Serves data address "https://host/svc/P?$format=json&$top=2&$count=true"
        (.json 400 "$count is not a valid option") :=
      @Serves.of_rejection _ _ _ _ .count ⟨"$count", "true", rfl, by decide +kernel⟩
        (And.intro (by decide) ⟨.string "$count is not a valid option",
          Fault.eq_ok_of_toOption (by decide +kernel), by decide +kernel⟩)
    have hcounted : Serves data address "https://host/svc/P?$format=json&$top=2&$inlinecount=allpages"
        (.json 200 "\x7b\"d\": \x7b\"results\": [1, 2], \"__count\": \"3\"\x7d\x7d") := by
      let payload : Value := .map [(.text "d", .map [(.text "results", .list [.int 1, .int 2]),
        (.text "__count", .text "3")])]
      have hfields : Envelope.totalFields payload = [.null, .null, .null, .text "3"] := by decide +kernel
      have htotal : Envelope.IsTotal data.length (.text "3") := .inr ⟨.inr (by decide +kernel), by decide⟩
      refine @Serves.of_page _ _ _ _ 2 0 (by decide +kernel) (by decide +kernel) ?_
      refine And.intro (by decide) ⟨payload, Fault.eq_ok_of_toOption (by decide +kernel), .inr (.inl ⟨rfl, rfl⟩),
        fun v hv => ?_, fun _ => ⟨_, by rw [hfields]; simp, htotal⟩⟩
      have hv : v = .null ∨ v = .text "3" := by simpa [hfields] using hv
      rcases hv with rfl | rfl
      · exact .inl rfl
      · exact .inr htotal
    have hlater : Serves data address "https://host/svc/P?$format=json&$top=2&$skip=2" (.json 200 "[3]") := by
      have hfields : Envelope.totalFields (.list [.int 3]) = [.null, .null, .null, .null] := by decide +kernel
      refine @Serves.of_page _ _ _ _ 2 2 (by decide +kernel) (by decide +kernel) ?_
      refine And.intro (by decide) ⟨.list [.int 3], Fault.eq_ok_of_toOption (by decide +kernel), .inr (.inr rfl),
        fun v hv => ?_, ?_⟩
      · obtain rfl : v = .null := by simpa [hfields] using hv
        exact .inl rfl
      · rintro ⟨strategy, option, value, hparameter, hlookup⟩
        exfalso
        cases strategy <;> cases hparameter <;> revert hlookup <;> decide +kernel
    obtain ⟨hfirst, hsecond, hend⟩ :
        (browse 0).map (·.sent.map (·.url)) = some (["https://host/svc/P?$format=json&$top=2&$count=true",
          "https://host/svc/P?$format=json&$top=2&$inlinecount=allpages"] : List JsonText) ∧
        (browse 1).map (·.sent.map (·.url)) =
          some (["https://host/svc/P?$format=json&$top=2&$skip=2"] : List JsonText) ∧
        (browse 2).isNone = true := by
      decide +kernel
    intro k load hk
    apply Load.isServed_of_forall₂
    match k with
    | 0 =>
      rw [hk] at hfirst
      rw [show load.sent.map (·.url) = _ from Option.some.inj hfirst]
      exact .cons hrejection (.cons hcounted .nil)
    | 1 =>
      rw [hk] at hsecond
      rw [show load.sent.map (·.url) = _ from Option.some.inj hsecond]
      exact .cons hlater .nil
    | k + 2 =>
      have hnone : browse (k + 2) = none :=
        browse_eq_none_of_le (Option.isNone_iff_eq_none.1 hend) (Nat.le_add_left 2 k)
      exact absurd (hnone.symm.trans hk) (by simp)
  exact ⟨hsize, hwritable, hlength, hserved, browse_complete hsize hwritable hlength hserved⟩

/-- Browsing has limits. With a page size of more digits than can be written the loop ends with an error before
anything is sent. A total beyond the doubles is not taken, and as a numeral one beyond `2 ^ 53` may be rounded. -/
theorem browse_incomplete_beyond_limits :
    let session := Session.anonymous "https://host/svc"
    let size := tenPow Numeral.maxDigits
    let browse := (start 25 .inlinecount).browse session "P" size fun _ => []
    (0 < size ∧ (∀ k load, browse k = some load → load.IsServed [] (resourceUrl session.base "P") []) ∧
      ∃ load, browse 0 = some load ∧ load.result.isOk = false) ∧
    Envelope.count? (.int (2 ^ 1024 : Nat)) = .error .outOfRange ∧
    Envelope.count? (.text "9007199254740993") = .ok (some 9007199254740992) := by
  intro session size browse
  have hsize : 0 < size := tenPow_pos _
  have hlong : ¬IsWritable (((start 25 .inlinecount).onResource "P").sizeFor (some (size : Int))) := by
    rw [sizeFor, if_neg (Int.natCast_pos.2 hsize).ne']
    exact lt_irrefl _
  obtain ⟨status, a, -, hload, hcases⟩ := (start 25 .inlinecount).load_plain_cases session "P" 0
    (some (size : Int)) false []
  obtain ⟨hresult, hsent, -⟩ := hcases.resolve_right fun h => hlong h.1
  let first := (start 25 .inlinecount).pageAt session "P" size 0 []
  have hfirst : first.result = .error .unreadable ∧ first.sent = [] := by
    rw [show first = _ from hload, conclude, hresult]
    exact ⟨rfl, hsent⟩
  have hend : browse 1 = none := by
    simp only [browse, Pager.browse, Option.bind_some]
    rw [show ((start 25 .inlinecount).pageAt session "P" size 0 []).result = _ from hfirst.1]
  have hserved : ∀ k load, browse k = some load → load.IsServed [] (resourceUrl session.base "P") [] := by
    intro k load hk
    cases k with
    | zero =>
      obtain rfl : first = load := Option.some.inj hk
      intro i hi
      simp [hfirst.2] at hi
    | succ k =>
      have hnone : browse (k + 1) = none := browse_eq_none_of_le hend (Nat.le_add_left 1 k)
      exact absurd (hnone.symm.trans hk) (by simp)
  have hlarge : Envelope.count? (.int (2 ^ 1024 : Nat)) = .error .outOfRange := by
    rw [Envelope.count?, show Binary64.ofInt? (2 ^ 1024 : Nat) = none by decide +kernel]
  have hrounded : Envelope.count? (.text "9007199254740993") = .ok (some 9007199254740992) :=
    Fault.eq_ok_of_toOption (by decide +kernel)
  exact ⟨⟨hsize, hserved, first, rfl, by rw [hfirst.1]; rfl⟩, hlarge, hrounded⟩

end Pager

end ODataBrowser
