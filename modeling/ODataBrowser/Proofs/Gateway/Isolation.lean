import Mathlib.Data.List.Perm.Subperm
import ODataBrowser.Gateway.Api
import ODataBrowser.Gateway.Standard
import ODataBrowser.Proofs.Gateway.Pagers
import ODataBrowser.Proofs.Pager.Loading

/-!
# Resources that share a gateway

The users of all resources share one gateway with one session and one bounded list of pagers. Still they do not notice
each other. To the users of one resource, gateways are the same that agree on the configuration, the session and the
one pager (`Gateway.AgreeOn`). The configuration decides how a request about a resource is answered, either at once or
by its pager (`Gateway.answers_handle`). So gateways that agree answer alike, and as long as there is room for all
pagers, a request about another resource is not noticed. Hence the answers are the same as if nothing else had been
requested (`Gateway.repliesTo_filter`).
-/

namespace ODataBrowser

/-! ## Requests one after the other -/

/-- The resource that a route is about. -/
def Route.resource? : Route → Option String
  | .health | .resources => none
  | .page resource | .reset resource => some resource

/-- The resource that a request is about. -/
def ApiRequest.resource? (r : ApiRequest) : Option String :=
  (Route.ofPath? r.directed.path).bind Route.resource?

/-- A request of a user, the time when it comes, and what the requests to the service that it causes come to. -/
structure ApiCall where
  now : Value
  request : ApiRequest
  outcomes : List Outcome

/-- The resource that a call is about. -/
def ApiCall.resource? (c : ApiCall) : Option String :=
  c.request.resource?

namespace Gateway

/-- Answers a call. -/
def serve (g : Gateway) (framework : Framework) (c : ApiCall) : ApiExchange :=
  g.handle framework c.now c.request c.outcomes

/-- The answers to the calls that are about a resource, among calls one after the other, with the requests that were
sent to the service. -/
def repliesTo (framework : Framework) (name : String) : Gateway → List ApiCall → List (ApiAnswer × List Request)
  | _, [] => []
  | g, c :: later =>
    let exchange := g.serve framework c
    if c.resource? = some name then
      (exchange.answer, exchange.sent) :: repliesTo framework name exchange.gateway later
    else repliesTo framework name exchange.gateway later

/-! ## What a request does to a gateway -/

/-- What comes of a request that has got the pager of its resource. -/
structure Handled where
  answer : ApiAnswer
  pager : Pager
  sent : List Request
  pending : List Outcome

/-- Answers a request with the pager of a resource, and notes the new state of this pager. -/
def handleBy (g : Gateway) (name : String) (outcomes : List Outcome) (f : Obtained → Handled) : ApiExchange :=
  match g.pager name with
  | (.error _, after) => after.answering outcomes .internalError
  | (.ok obtained, after) =>
    ⟨(f obtained).answer, after.store name (f obtained).pager, (f obtained).sent, (f obtained).pending⟩

/-- A page is loaded by the pager of its resource, once its form is read. -/
theorem loadPage_eq (g : Gateway) (name : String) (form : PageForm) (outcomes : List Outcome) :
    g.loadPage name form outcomes =
      match g.loadArguments name form with
      | .error _ => g.answering outcomes .internalError
      | .ok arguments => g.handleBy name outcomes fun obtained =>
        let load := obtained.pager.load obtained.session arguments outcomes
        ⟨pageAnswer name load.result, load.pager, load.sent, load.pending⟩ := by
  unfold loadPage handleBy
  cases g.loadArguments name form <;> rfl

theorem resetPager_eq (g : Gateway) (name : String) (outcomes : List Outcome) :
    g.resetPager name outcomes = g.handleBy name outcomes fun obtained =>
      ⟨⟨200, .json (.ofFields [("resource", .text name), ("reset", .bool true)])⟩,
        obtained.pager.reset (.text name), [], outcomes⟩ := by
  unfold resetPager handleBy
  rfl

/-- How a gateway answers a request about a resource depends on its configuration only: at once, or by the pager of
the resource. -/
inductive Answers (g : Gateway) (name : String) (outcomes : List Outcome) (x : Gateway → ApiExchange) : Prop where
  | atOnce (answer : ApiAnswer) (eq : ∀ h : Gateway, h.close = g.close → x h = h.answering outcomes answer)
  | byPager (f : Obtained → Handled) (eq : ∀ h : Gateway, h.close = g.close → x h = h.handleBy name outcomes f)

variable {g h : Gateway} {n : Nat} {names : List String} {name other : String} {outcomes : List Outcome}
  {x y : Gateway → ApiExchange}

theorem Answers.congr (hx : g.Answers name outcomes x) (h : ∀ h : Gateway, h.close = g.close → y h = x h) :
    g.Answers name outcomes y := by
  cases hx with
  | atOnce answer eq => exact .atOnce answer fun k hk => (h k hk).trans (eq k hk)
  | byPager f eq => exact .byPager f fun k hk => (h k hk).trans (eq k hk)

theorem dependency?_of_needsKey {route : Route} (h : route.needsKey = true) : g.dependency? route = some g.requireKey :=
  if_pos h

theorem dependency?_congr (hclose : h.close = g.close) (route : Route) : h.dependency? route = g.dependency? route :=
  show h.close.dependency? route = g.close.dependency? route by rw [hclose]

theorem loadArguments_congr (hclose : h.close = g.close) (name : String) (form : PageForm) :
    h.loadArguments name form = g.loadArguments name form :=
  show h.close.loadArguments name form = g.close.loadArguments name form by rw [hclose]

theorem answers_loadPage (g : Gateway) (name : String) (form : PageForm) (outcomes : List Outcome) :
    g.Answers name outcomes (·.loadPage name form outcomes) := by
  cases harguments : g.loadArguments name form with
  | error fault => exact .atOnce .internalError fun h hclose => by rw [loadPage_eq, loadArguments_congr hclose, harguments]
  | ok arguments => exact .byPager _ fun h hclose => by rw [loadPage_eq, loadArguments_congr hclose, harguments]

/-- The endpoint of a route about a resource answers at once, or by the pager of the resource. -/
theorem answers_respond {route : Route} (hroute : route.resource? = some name) (arguments : route.Arguments) (g : Gateway)
    (now : Value) (outcomes : List Outcome) : g.Answers name outcomes (·.respond now outcomes route arguments) := by
  cases route with
  | health | resources => contradiction
  | page resource =>
    obtain rfl := Option.some.inj hroute
    exact answers_loadPage g resource arguments outcomes
  | reset resource =>
    obtain rfl := Option.some.inj hroute
    exact .byPager _ fun h _ => h.resetPager_eq resource outcomes

/-- A request about a resource is answered at once, or by the pager of the resource. What the framework makes of it
depends on the configuration only, which the check of the key is part of. -/
theorem answers_handle {r : ApiRequest} (hr : r.resource? = some name) (g : Gateway) (framework : Framework)
    (now : Value) (outcomes : List Outcome) : g.Answers name outcomes (·.handle framework now r outcomes) := by
  obtain ⟨route, hroute, hname⟩ := Option.bind_eq_some_iff.1 hr
  by_cases hmethod : r.directed.method = route.method
  · have heq (h : Gateway) :
        h.handle framework now r outcomes = h.handleRoute framework now route r.directed outcomes := by
      simp [handle, hroute, hmethod]
    cases hreceived : framework.receive route (g.dependency? route) r.directed with
    | error answer =>
      exact .atOnce answer fun h hclose => by rw [heq, handleRoute, dependency?_congr hclose, hreceived]
    | ok arguments =>
      refine (answers_respond hname arguments g now outcomes).congr fun h hclose => ?_
      rw [heq, handleRoute, dependency?_congr hclose, hreceived]
  · exact .atOnce (ApiAnswer.methodNotAllowed.arriving r.directed.method) fun h _ => by
      simp [handle, hroute, hmethod]

/-- Whether a gateway has the configuration, the session and the pagers of another one. -/
structure SamePagers (g h : Gateway) : Prop where
  close_eq : h.close = g.close
  session_eq : h.session = g.session
  pagers_eq : h.pagers = g.pagers

theorem SamePagers.refl (g : Gateway) : g.SamePagers g :=
  ⟨rfl, rfl, rfl⟩

/-- Listing the resources may open the session and remember what was found. -/
theorem samePagers_listResources (g : Gateway) (now : Value) (term : String) (outcomes : List Outcome) :
    g.SamePagers (g.listResources now term outcomes).gateway := by
  change g.SamePagers (g.resources now outcomes).2
  unfold resources
  cases g.remembered? now with
  | error fault => exact .refl g
  | ok remembered =>
    cases remembered with
    | some known => exact .refl g
    | none =>
      change g.SamePagers (g.discover now outcomes).2
      unfold discover
      cases g.session with
      | error fault => exact .refl g
      | ok session =>
        dsimp only
        cases (session.discover outcomes).result with
        | error fault => exact ⟨rfl, session_afterUse g, rfl⟩
        | ok found => exact ⟨rfl, session_afterUse g, rfl⟩

/-- A request about no resource leaves the pagers alone. -/
theorem samePagers_handle {r : ApiRequest} (hr : r.resource? = none) (g : Gateway) (framework : Framework)
    (now : Value) (outcomes : List Outcome) : g.SamePagers (g.handle framework now r outcomes).gateway := by
  cases hroute : Route.ofPath? r.directed.path with
  | none =>
    simp only [handle, hroute]
    exact .refl g
  | some route =>
    simp only [handle, hroute]
    by_cases hmethod : (r.directed.method != route.method) = true
    · rw [if_pos hmethod]
      exact .refl g
    rw [if_neg hmethod, handleRoute]
    rw [ApiRequest.resource?, hroute] at hr
    cases framework.receive route (g.dependency? route) r.directed with
    | error answer => exact .refl g
    | ok arguments =>
      cases route with
      | page | reset => contradiction
      | health => exact .refl g
      | resources => exact samePagers_listResources ..

/-! ## Gateways that agree on a resource -/

/-- Whether two gateways are the same to the users of a resource: they have the same configuration, the same session,
and the same pager for it, if any. -/
structure AgreeOn (name : String) (g h : Gateway) : Prop where
  close_eq : g.close = h.close
  session_eq : g.session = h.session
  pager_eq : g.pagers.find? (.text name) = h.pagers.find? (.text name)

/-- Whether a gateway keeps so many pagers, and there is room for those of the given names, to which all belong that it
keeps now. -/
structure HasRoom (g : Gateway) (n : Nat) (names : List String) : Prop where
  maxPagers : g.maxPagers = .int n
  enough : names.dedup.length ≤ n
  nodup : g.pagers.keys.Nodup
  subset : g.pagers.keys ⊆ names.map .text

theorem AgreeOn.refl (name : String) (g : Gateway) : AgreeOn name g g :=
  ⟨rfl, rfl, rfl⟩

theorem AgreeOn.symm (hagree : AgreeOn name g h) : AgreeOn name h g :=
  ⟨hagree.close_eq.symm, hagree.session_eq.symm, hagree.pager_eq.symm⟩

theorem AgreeOn.trans {k : Gateway} (hagree : AgreeOn name g h) (hagree' : AgreeOn name h k) : AgreeOn name g k :=
  ⟨hagree.close_eq.trans hagree'.close_eq, hagree.session_eq.trans hagree'.session_eq,
    hagree.pager_eq.trans hagree'.pager_eq⟩

theorem SamePagers.agreeOn (hsame : g.SamePagers h) (name : String) : AgreeOn name g h :=
  ⟨hsame.close_eq.symm, hsame.session_eq.symm, by rw [hsame.pagers_eq]⟩

/-- What a gateway offers for a resource is all the same to its users. -/
theorem AgreeOn.offered_eq (hagree : AgreeOn name g h) : g.offered name = h.offered name := by
  have hnew : g.newPager = h.newPager := show g.close.newPager = h.close.newPager by rw [hagree.close_eq]
  rw [offered, offered, hagree.session_eq, hagree.pager_eq, hnew]

theorem AgreeOn.store (hagree : AgreeOn name g h) (p : Pager) : AgreeOn name (g.store name p) (h.store name p) :=
  ⟨hagree.close_eq, hagree.session_eq, by
    simp only [Gateway.store, Recent.find?_update_self, hagree.pager_eq]⟩

/-- The state of another pager is not noticed. -/
theorem agreeOn_store (hne : other ≠ name) (g : Gateway) (p : Pager) : AgreeOn name g (g.store other p) :=
  ⟨rfl, rfl, (Recent.find?_update_of_ne hne p).symm⟩

namespace HasRoom

theorem of_empty (hmax : g.maxPagers = .int n) (henough : names.dedup.length ≤ n) (hempty : g.pagers = []) :
    g.HasRoom n names :=
  ⟨hmax, henough, by simp [hempty, Recent.keys], by simp [hempty, Recent.keys]⟩

theorem of_samePagers (hroom : g.HasRoom n names) (hsame : g.SamePagers h) : h.HasRoom n names where
  maxPagers := (congrArg (·.maxPagers) hsame.close_eq).trans hroom.maxPagers
  enough := hroom.enough
  nodup := hsame.pagers_eq ▸ hroom.nodup
  subset := hsame.pagers_eq ▸ hroom.subset

theorem store (hroom : g.HasRoom n names) (name : String) (p : Pager) : (g.store name p).HasRoom n names where
  maxPagers := hroom.maxPagers
  enough := hroom.enough
  nodup := by rw [Gateway.store, Recent.keys_update]; exact hroom.nodup
  subset := by rw [Gateway.store, Recent.keys_update]; exact hroom.subset

/-- Entries under the names, each listed once, are no more than there is room for. -/
theorem length_le {names : List String} (henough : names.dedup.length ≤ n) {r : Recent Pager} (hnodup : r.keys.Nodup)
    (hsubset : r.keys ⊆ names.map .text) : r.length ≤ n := by
  have hkeys : r.keys ⊆ names.dedup.map .text := fun key hkey => by
    obtain ⟨name, hname, rfl⟩ := List.mem_map.1 (hsubset hkey)
    exact List.mem_map_of_mem (List.mem_dedup.2 hname)
  calc r.length = r.keys.length := Recent.length_keys.symm
    _ ≤ (names.dedup.map Scalar.text).length := (hnodup.subperm hkeys).length_le
    _ ≤ n := by rwa [List.length_map]

theorem keys_touch_subset (hroom : g.HasRoom n names) (hname : name ∈ names) (p : Pager) :
    (g.pagers.touch (.text name) p).keys ⊆ names.map .text := by
  rw [Recent.keys_touch]
  refine List.append_subset.2 ⟨fun key hkey => hroom.subset (List.mem_of_mem_filter hkey), ?_⟩
  simpa using hname

/-- Where there is room, no pager is dropped. -/
theorem pager_eq (hroom : g.HasRoom n names) (hname : name ∈ names) :
    g.pager name = (g.offered name,
      match g.offered name with
      | .ok obtained => { g.afterUse with pagers := g.pagers.touch (.text name) obtained.pager }
      | .error _ => g.afterUse) := by
  rw [Gateway.pager_eq hroom.maxPagers (length_le hroom.enough hroom.nodup hroom.subset)]
  cases g.offered name with
  | error fault => rfl
  | ok obtained =>
    dsimp only
    rw [keeping, rtake_of_length_le (length_le hroom.enough (Recent.nodup_keys_touch hroom.nodup _)
      (hroom.keys_touch_subset hname _))]

theorem gateway_pager (hroom : g.HasRoom n names) (hname : name ∈ names) : (g.pager name).2.HasRoom n names := by
  rw [hroom.pager_eq hname]
  cases g.offered name with
  | error fault => exact ⟨hroom.maxPagers, hroom.enough, hroom.nodup, hroom.subset⟩
  | ok obtained =>
    exact ⟨hroom.maxPagers, hroom.enough, Recent.nodup_keys_touch hroom.nodup _, hroom.keys_touch_subset hname _⟩

/-- A request for another pager is not noticed. -/
theorem agreeOn_pager (hroom : g.HasRoom n names) (hother : other ∈ names) (hne : other ≠ name) :
    AgreeOn name g (g.pager other).2 := by
  rw [hroom.pager_eq hother]
  cases g.offered other with
  | error fault => exact ⟨rfl, (session_afterUse g).symm, rfl⟩
  | ok obtained => exact ⟨rfl, (session_afterUse g).symm, (Recent.find?_touch_of_ne hne _).symm⟩

/-- Gateways that agree offer the same pager and agree behind its request. -/
theorem pager_congr (hg : g.HasRoom n names) (hh : h.HasRoom n names) (hname : name ∈ names)
    (hagree : AgreeOn name g h) :
    (g.pager name).1 = (h.pager name).1 ∧ AgreeOn name (g.pager name).2 (h.pager name).2 := by
  have hsession : g.afterUse.session = h.afterUse.session := by
    rw [session_afterUse, session_afterUse, hagree.session_eq]
  rw [hg.pager_eq hname, hh.pager_eq hname, hagree.offered_eq]
  refine ⟨rfl, ?_⟩
  cases h.offered name with
  | error fault => exact ⟨hagree.close_eq, hsession, hagree.pager_eq⟩
  | ok obtained =>
    exact ⟨hagree.close_eq, hsession, (Recent.find?_touch_self _).trans (Recent.find?_touch_self _).symm⟩

end HasRoom

/-! ## Steps -/

/-- The gateway behind a request that its pager answers: the new state of the pager is noted, if there is one. -/
theorem gateway_handleBy (g : Gateway) (name : String) (outcomes : List Outcome) (f : Obtained → Handled) :
    (g.handleBy name outcomes f).gateway = (g.pager name).2 ∨
      ∃ p, (g.handleBy name outcomes f).gateway = (g.pager name).2.store name p := by
  unfold handleBy
  match g.pager name with
  | (.error _, after) => exact .inl rfl
  | (.ok obtained, after) => exact .inr ⟨_, rfl⟩

namespace HasRoom

/-- A call that is about one of the names leaves room for them. -/
theorem serve (hroom : g.HasRoom n names) (framework : Framework) {c : ApiCall}
    (hc : ∀ other, c.resource? = some other → other ∈ names) :
    (g.serve framework c).gateway.HasRoom n names := by
  cases hresource : c.resource? with
  | none => exact hroom.of_samePagers (samePagers_handle hresource g framework c.now c.outcomes)
  | some other =>
    have hafter := hroom.gateway_pager (hc other hresource)
    rw [Gateway.serve]
    cases answers_handle hresource g framework c.now c.outcomes with
    | atOnce answer eq =>
      rw [eq g rfl]
      exact hroom
    | byPager f eq =>
      rw [eq g rfl]
      rcases g.gateway_handleBy other c.outcomes f with heq | ⟨p, heq⟩ <;> rw [heq]
      · exact hafter
      · exact hafter.store other p

/-- A call that is not about a resource is not noticed by its users. -/
theorem agreeOn_serve (hroom : g.HasRoom n names) (framework : Framework) {c : ApiCall}
    (hc : ∀ other, c.resource? = some other → other ∈ names) (hne : c.resource? ≠ some name) :
    AgreeOn name g (g.serve framework c).gateway := by
  cases hresource : c.resource? with
  | none => exact (samePagers_handle hresource g framework c.now c.outcomes).agreeOn name
  | some other =>
    have hother : other ≠ name := fun heq => hne (heq ▸ hresource)
    have hafter := hroom.agreeOn_pager (hc other hresource) hother
    rw [Gateway.serve]
    cases answers_handle hresource g framework c.now c.outcomes with
    | atOnce answer eq =>
      rw [eq g rfl]
      exact .refl name g
    | byPager f eq =>
      rw [eq g rfl]
      rcases g.gateway_handleBy other c.outcomes f with heq | ⟨p, heq⟩ <;> rw [heq]
      · exact hafter
      · exact hafter.trans (agreeOn_store hother _ p)

theorem handleBy_congr (hg : g.HasRoom n names) (hh : h.HasRoom n names) (hname : name ∈ names)
    (hagree : AgreeOn name g h) (f : Obtained → Handled) :
    (g.handleBy name outcomes f).answer = (h.handleBy name outcomes f).answer ∧
      (g.handleBy name outcomes f).sent = (h.handleBy name outcomes f).sent ∧
      AgreeOn name (g.handleBy name outcomes f).gateway (h.handleBy name outcomes f).gateway := by
  obtain ⟨hsame, hafter⟩ := hg.pager_congr hh hname hagree
  unfold handleBy
  generalize g.pager name = ofG at hsame hafter ⊢
  generalize h.pager name = ofH at hsame hafter ⊢
  obtain ⟨result, g'⟩ := ofG
  obtain ⟨result', h'⟩ := ofH
  obtain rfl : result = result' := hsame
  cases result with
  | error fault => exact ⟨rfl, rfl, hafter⟩
  | ok obtained => exact ⟨rfl, rfl, hafter.store _⟩

/-- A call is answered alike by gateways that agree on its resource, and they agree behind it. -/
theorem serve_congr (hg : g.HasRoom n names) (hh : h.HasRoom n names) (hname : name ∈ names)
    (hagree : AgreeOn name g h) (framework : Framework) {c : ApiCall} (hc : c.resource? = some name) :
    (g.serve framework c).answer = (h.serve framework c).answer ∧ (g.serve framework c).sent = (h.serve framework c).sent ∧
      AgreeOn name (g.serve framework c).gateway (h.serve framework c).gateway := by
  rw [Gateway.serve, Gateway.serve]
  cases answers_handle hc g framework c.now c.outcomes with
  | atOnce answer eq =>
    rw [eq g rfl, eq h hagree.close_eq.symm]
    exact ⟨rfl, rfl, hagree⟩
  | byPager f eq =>
    rw [eq g rfl, eq h hagree.close_eq.symm]
    exact hg.handleBy_congr hh hname hagree f

end HasRoom

/-! ## Runs -/

/-- Gateways that agree on a resource answer the calls about it alike, though one of them gets no other calls. -/
theorem repliesTo_congr (framework : Framework) (hg : g.HasRoom n names) (hh : h.HasRoom n names)
    (hagree : AgreeOn name g h) {calls : List ApiCall} (hcalls : ∀ c ∈ calls, ∀ other, c.resource? = some other → other ∈ names) :
    g.repliesTo framework name calls = h.repliesTo framework name (calls.filter (·.resource? = some name)) := by
  induction calls generalizing g h with
  | nil => rfl
  | cons c later ih =>
    have hc := hcalls c (List.mem_cons_self ..)
    have hlater := fun d hd => hcalls d (List.mem_cons_of_mem c hd)
    by_cases hname : c.resource? = some name
    · obtain ⟨hanswer, hsent, hafter⟩ := hg.serve_congr hh (hc name hname) hagree framework hname
      rw [List.filter_cons_of_pos (by simpa using hname), repliesTo, repliesTo]
      simp only [hname, if_true]
      rw [hanswer, hsent, ih (hg.serve framework hc) (hh.serve framework hc) hafter hlater]
    · -- The other gateway does not get this call, and to the users of the resource nothing has changed.
      have hafter := (hg.agreeOn_serve framework hc hname).symm.trans hagree
      rw [List.filter_cons_of_neg (by simpa using hname), repliesTo, if_neg hname]
      exact ih (hg.serve framework hc) hh hafter hlater

/-- **Resources that share a gateway do not influence each other.** As long as no more resources are asked about than
pagers are kept, the answers to the calls about a resource, and the requests to the service that they cause, are those
of the run in which there are no other calls. This does not depend on the framework. -/
theorem repliesTo_filter (framework : Framework) (hmax : g.maxPagers = .int n) (hnew : g.pagers = []) (name : String)
    (calls : List ApiCall) (hfew : (calls.filterMap ApiCall.resource?).dedup.length ≤ n) :
    g.repliesTo framework name calls = g.repliesTo framework name (calls.filter (·.resource? = some name)) := by
  have hroom : g.HasRoom n (calls.filterMap ApiCall.resource?) := .of_empty hmax hfew hnew
  exact repliesTo_congr framework hroom hroom (.refl name g) fun c hc other hother => List.mem_filterMap.2 ⟨c, hc, hother⟩

/-- A call with an empty form and the key of a standard gateway. -/
def standardCall (path : String) (outcomes : List Outcome) : ApiCall where
  now := .int 0
  request := { method := "POST", path := path.toList, headers := [("x-api-key", .text "key")], body := "\x7b\x7d" }
  outcomes

/-- A rejected count, a failure and a reset of the one resource change nothing for the other, whose count stays
unrejected. -/
theorem repliesTo_filter_of_two :
    let g := standard "https://host/svc" 2
    let first := standardCall "/resources/A/page" [.json 200 "\x7b\"value\":[\x7b\"n\":1\x7d],\"count\":7\x7d"]
    let others := [
      standardCall "/resources/B/page"
        [.json 400 "\x7b\"message\":\"$inlinecount is not a valid option\"\x7d", .json 500 "[]"],
      standardCall "/resources/B/reset" []]
    let last := standardCall "/resources/A/page" [.json 200 "\x7b\"value\":[\x7b\"n\":2\x7d],\"count\":8\x7d"]
    let calls := first :: others ++ [last]
    g.maxPagers = .int (2 : Nat) ∧ g.pagers = [] ∧ (calls.filterMap ApiCall.resource?).dedup.length ≤ 2 ∧
    g.repliesTo .standard "A" calls = g.repliesTo .standard "A" [first, last] ∧
    (g.repliesTo .standard "A" calls).map (fun reply => (reply.1.status, reply.2.length)) = [(200, 1), (200, 1)] ∧
    (g.repliesTo .standard "B" calls).map (fun reply => (reply.1.status, reply.2.length)) = [(502, 2), (200, 0)] := by
  intro g first others last calls
  have hmax : g.maxPagers = .int (2 : Nat) := rfl
  have hnew : g.pagers = [] := rfl
  have hA : ∀ c ∈ [first, last], c.resource? = some "A" := by decide
  have hB : ∀ c ∈ others, c.resource? = some "B" := by decide
  have hfew : (calls.filterMap ApiCall.resource?).dedup.length ≤ 2 := by decide
  have honlyA : calls.filter (·.resource? = some "A") = [first, last] := by
    have hnone : others.filter (·.resource? = some "A") = [] :=
      List.filter_eq_nil_iff.2 fun c hc => by simp [hB c hc]
    simp [calls, hA, hnone]
  have honlyB : calls.filter (·.resource? = some "B") = others := by
    have hall : others.filter (·.resource? = some "B") = others :=
      List.filter_eq_self.2 fun c hc => by simp [hB c hc]
    simp [calls, hA, hall]
  have hsameA : g.repliesTo .standard "A" calls = _ := repliesTo_filter .standard hmax hnew "A" calls hfew
  have hsameB : g.repliesTo .standard "B" calls = _ := repliesTo_filter .standard hmax hnew "B" calls hfew
  rw [honlyA] at hsameA
  rw [honlyB] at hsameB
  refine ⟨hmax, hnew, hfew, hsameA, ?_, ?_⟩
  · rw [hsameA]
    decide +kernel
  · rw [hsameB]
    decide +kernel

end Gateway

end ODataBrowser
