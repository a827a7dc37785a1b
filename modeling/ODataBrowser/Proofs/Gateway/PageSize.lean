import ODataBrowser.Proofs.Gateway.Isolation
import ODataBrowser.Proofs.Query.Address

/-!
# The page size that a gateway asks for

A gateway asks its service for no more rows at once than it is configured to. The size goes into the option `$top` of
each request, and is the only value of this option, as long as the address of the resource has neither options nor a
fragment of its own (`Gateway.tops_of_serve`). The address holds the name of the resource as the user gives it. So a
user who names the resource accordingly gets past the limit (`Gateway.tops_of_resource_with_options`).
-/

namespace ODataBrowser

open Query

namespace Gateway

variable {g : Gateway} {framework : Framework} {r : ApiRequest} {form : PageForm} {name : String} {limit : Int}
  {outcomes : List Outcome}

/-! ## The load of a form -/

/-- The page size that a gateway with a limit asks for. -/
def cappedSize (g : Gateway) (form : PageForm) (limit : Int) : Int :=
  min (form.size.getD g.access.pageSize) limit

theorem sizeOf_eq (hlimit : g.maxPageSize = .int limit) (form : PageForm) :
    g.sizeOf form = .ok (.int (g.cappedSize form limit)) := by
  rw [sizeOf, hlimit, Value.least, Value.less_int, cappedSize]
  by_cases h : limit < form.size.getD g.access.pageSize
  · rw [min_eq_right h.le]
    simp [h, bind, Except.bind, pure, Except.pure]
  · rw [min_eq_left (not_lt.1 h)]
    simp [h, bind, Except.bind, pure, Except.pure]

/-- A form is loaded from the resource, by the size that the gateway asks for. -/
theorem loadArguments_eq_ok (hlimit : g.maxPageSize = .int limit) {arguments : LoadArguments}
    (h : g.loadArguments name form = .ok arguments) :
    arguments.resource = .text name ∧ arguments.size = .int (g.cappedSize form limit) := by
  obtain ⟨size, hsize, h⟩ := Fault.exists_of_bind_eq_ok h
  obtain ⟨sorts, -, h⟩ := Fault.exists_of_bind_eq_ok h
  obtain ⟨filters, -, h⟩ := Fault.exists_of_bind_eq_ok h
  obtain rfl := Except.ok.inj h
  rw [sizeOf_eq hlimit] at hsize
  exact ⟨rfl, (Except.ok.inj hsize).symm⟩

/-! ## The requests for a page -/

theorem session_of_pager {obtained : Obtained} (h : (g.pager name).1 = .ok obtained) :
    g.session = .ok obtained.session := by
  unfold pager pagerUnder at h
  cases hsession : g.session with
  | error fault => simp [hsession] at h
  | ok session =>
    rw [hsession] at h
    dsimp only at h
    split at h
    · exact congrArg (fun o => Except.ok (Obtained.session o)) (Except.ok.inj h)
    · split at h
      · contradiction
      · rename_i pager _
        cases hkept : (g.afterUse.adopt (.text name) pager).1 with
        | error fault => simp [hkept, Except.map] at h
        | ok kept =>
          simp only [hkept, Except.map, Except.ok.injEq] at h
          rw [← h]

/-- What is sent for a page is sent for the form that the framework finds in the request. -/
theorem exists_form_of_mem_sent {now : Value} (hroute : Route.ofPath? r.directed.path = some (.page name))
    {sent : Request} (h : sent ∈ (g.handle framework now r outcomes).sent) :
    ∃ form, framework.receive (.page name) (some g.requireKey) r.directed = .ok form ∧
      sent ∈ (g.loadPage name form outcomes).sent := by
  simp only [handle, hroute] at h
  split at h
  · exact absurd h List.not_mem_nil
  · rw [handleRoute, dependency?_of_needsKey rfl] at h
    cases hreceived : framework.receive (.page name) (some g.requireKey) r.directed with
    | error answer =>
      rw [hreceived] at h
      exact absurd h List.not_mem_nil
    | ok form =>
      rw [hreceived] at h
      exact ⟨form, rfl, h⟩

/-- What is sent for a page is sent by a load of the pager of the resource. -/
theorem exists_load_of_mem_sent (hlimit : g.maxPageSize = .int limit) {sent : Request}
    (h : sent ∈ (g.loadPage name form outcomes).sent) :
    ∃ (session : Session) (p : Pager) (arguments : LoadArguments), g.session = .ok session ∧
      arguments.resource = .text name ∧ arguments.size = .int (g.cappedSize form limit) ∧
      sent ∈ (p.load session arguments outcomes).sent := by
  rw [loadPage_eq] at h
  cases harguments : g.loadArguments name form with
  | error fault =>
    rw [harguments] at h
    exact absurd h List.not_mem_nil
  | ok arguments =>
    obtain ⟨hresource, hsize⟩ := loadArguments_eq_ok hlimit harguments
    rw [harguments] at h
    simp only [handleBy] at h
    split at h
    · exact absurd h List.not_mem_nil
    · rename_i obtained after hpager
      exact ⟨obtained.session, obtained.pager, arguments, session_of_pager (congrArg Prod.fst hpager), hresource, hsize,
        h⟩

/-- Each request of a load with a positive size has the URL of a query with this size. -/
theorem exists_query_of_positive_size {p : Pager} {session : Session} {arguments : LoadArguments} {size : Int}
    (hname : arguments.resource = .text name) (hgiven : arguments.size = .int size) (hsize : 0 < size)
    {sent : Request} (h : sent ∈ (p.load session arguments outcomes).sent) :
    ∃ (q : PageQuery) (asked : CountStrategy), q.top = some size ∧ q.count = asked.parameter? ∧
      q.toUrl (resourceUrl session.base name) = .ok sent.url := by
  obtain ⟨plan, i, hplan, hurl⟩ := p.exists_queryAt_of_mem_sent session hname h
  obtain ⟨-, -, hplanned, -⟩ := Pager.plan_eq_ok hplan
  have hpresent : (arguments.size.orElse (.int (p.onResource name).defaultSize)).toInt = .ok size := by
    rw [hgiven]
    simp [Value.orElse, Value.isPresent, Scalar.isPresent, hsize.ne', Value.toInt]
  have heq : plan.size = size := Except.ok.inj (hplanned.symm.trans hpresent)
  rw [queryAt, LoadPlan.again_iterate_of_size fun hzero => absurd (heq.symm.trans hzero) hsize.ne'] at hurl
  refine ⟨_, if plan.asksCount then CountStrategy.down^[i] (p.onResource name).strategy else .none, ?_, ?_, hurl⟩
  · exact congrArg some heq
  · change (if plan.asksCount then _ else none) = _
    split <;> rfl

/-- The address of a resource has no other characters than the root address and the name, but for a slash. -/
theorem mem_of_mem_resourceUrl {base : String} {mark : Char} (hne : mark ≠ '/')
    (h : mark ∈ (resourceUrl base name).shown) : mark ∈ base.toList ∨ mark ∈ name.toList := by
  rw [resourceUrl, JsonText.shown_ofChars, joinUrl, List.mem_append, List.mem_cons, Text.dropEndWhile,
    List.mem_reverse] at h
  rcases h with h | h | h
  · exact .inl (List.mem_reverse.1 ((List.dropWhile_suffix _).subset h))
  · contradiction
  · exact .inr ((List.dropWhile_suffix _).subset h)

/-- **The page size that a gateway asks for.** The values of `$top` in a request for a page are those that the address
of the resource has of its own, and the size that the form asks for or else the gateway, but never more than the limit.
A fragment in the address leaves the request without the latter. So the size is the one value where neither the root
address nor the name of the resource has a question mark or a number sign. -/
theorem tops_of_serve (hlimit : g.maxPageSize = .int limit) (hone : 1 ≤ limit) (hsize : 1 ≤ g.access.pageSize)
    {c : ApiCall} (hroute : Route.ofPath? c.request.directed.path = some (.page name)) {sent : Request}
    (h : sent ∈ (g.serve framework c).sent) :
    ∃ session form, g.session = .ok session ∧
      framework.receive (.page name) (some g.requireKey) c.request.directed = .ok form ∧
      let address := resourceUrl session.base name
      let size := min (form.size.getD g.access.pageSize) limit
      valuesIn "$top" sent.url =
        valuesIn "$top" address ++ (if '#' ∈ address.shown then [] else [Numeral.ofInt size]) ∧
      ((∀ mark ∈ ['?', '#'], mark ∉ session.base.toList ∧ mark ∉ name.toList) →
        valuesIn "$top" sent.url = [Numeral.ofInt size]) := by
  obtain ⟨form, hform, hsent⟩ := exists_form_of_mem_sent hroute h
  obtain ⟨session, p, arguments, hsession, hname, hgiven, hsent⟩ := exists_load_of_mem_sent hlimit hsent
  have hwanted : 1 ≤ form.size.getD g.access.pageSize := by
    cases hasked : form.size with
    | none => exact hsize
    | some n => exact form.one_le_size n hasked
  have hpos : 0 < g.cappedSize form limit := lt_min (by omega) (by omega)
  obtain ⟨q, asked, htop, hcount, hurl⟩ := exists_query_of_positive_size hname hgiven hpos hsent
  have htops := PageQuery.valuesIn_top_toUrl hcount htop hpos hurl
  refine ⟨session, form, hsession, hform, htops, fun hmarks => ?_⟩
  have hplain : ∀ mark ∈ ['?', '#'], mark ∉ (resourceUrl session.base name).shown := fun mark hmark hmem => by
    have hne : mark ≠ '/' := by
      rintro rfl
      exact absurd hmark (by decide)
    rcases mem_of_mem_resourceUrl hne hmem with hbase | hname
    · exact (hmarks mark hmark).1 hbase
    · exact (hmarks mark hmark).2 hname
  rw [htops, if_neg (hplain '#' (by simp)), valuesIn, urlOptions_of_not_mem (hplain '?' (by simp))]
  rfl

/-- A call for a page of so many rows, with the key of a standard gateway. -/
def sizedCall (path : String) (size : String) (outcomes : List Outcome) : ApiCall where
  now := .int 0
  request :=
    { method := "POST"
      path := path.toList
      headers := [("x-api-key", .text "key")]
      body := "\x7b\"page_size\":" ++ size ++ "\x7d" }
  outcomes

/-- A page of 1000 rows is asked for by the 500 that a standard gateway has as its limit, also after the service rejects
the counting option. -/
theorem tops_of_serve_after_rejection :
    let g := standard "https://host/svc" 2
    let c := sizedCall "/resources/Products/page" "1000"
      [.json 400 "\x7b\"message\":\"$inlinecount is not a valid option\"\x7d", .json 200 "\x7b\"value\":[]\x7d"]
    g.maxPageSize = .int 500 ∧ (1 : Int) ≤ 500 ∧ 1 ≤ g.access.pageSize ∧
    Route.ofPath? c.request.directed.path = some (.page "Products") ∧ (g.serve .standard c).sent.length = 2 ∧
    ∀ sent ∈ (g.serve .standard c).sent, valuesIn "$top" sent.url = ["500".toList] := by
  intro g c
  have hlimit : g.maxPageSize = .int 500 := rfl
  have hsize : 1 ≤ g.access.pageSize := by decide
  have hroute : Route.ofPath? c.request.directed.path = some (.page "Products") := by decide +kernel
  refine ⟨hlimit, by decide, hsize, hroute, by decide +kernel, fun sent hsent => ?_⟩
  obtain ⟨session, form, hsession, hform, -, htops⟩ := tops_of_serve hlimit (by decide) hsize hroute hsent
  have hbase : session.base = "https://host/svc" := by
    have hopened : g.session.toOption.map (·.base) = some "https://host/svc" := by decide +kernel
    rw [hsession] at hopened
    exact Option.some.inj hopened
  have hwanted : form.size = some 1000 := by
    have hread : (Framework.standard.receive (.page "Products") (some g.requireKey) c.request.directed).toOption.map
        (·.size) = some (some 1000) := by
      decide +kernel
    rw [hform] at hread
    exact Option.some.inj hread
  have hmarks : ∀ mark ∈ ['?', '#'], mark ∉ "https://host/svc".toList ∧ mark ∉ "Products".toList := by simp
  rw [htops (hbase ▸ hmarks), hwanted]
  decide

/-- A user can ask for more rows than the limit: by a resource with a size of its own in its name, or by one whose name
ends in a number sign. -/
theorem tops_of_resource_with_options :
    let g := standard "https://host/svc" 2
    let tops (path : String) := (g.serve .standard (sizedCall path "1000" [.json 200 "\x7b\"value\":[]\x7d"])).sent.map
      fun sent => valuesIn "$top" sent.url
    g.maxPageSize = .int 500 ∧
    tops "/resources/Products?$top=1000/page" = [["1000".toList, "500".toList]] ∧
    tops "/resources/Products?$top=1000#/page" = [["1000".toList]] ∧
    tops "/resources/Products#/page" = [[]] := by
  intro g tops
  exact ⟨rfl, by decide +kernel, by decide +kernel, by decide +kernel⟩

end Gateway

end ODataBrowser
