import ODataBrowser.Proofs.Gateway.Framework
import ODataBrowser.Proofs.Gateway.Isolation

/-!
# Requests without the key

All requests but the one that asks whether the gateway is up need its key. A request without it is refused at once: the
gateway is the same behind it, in all of its state, and the service is sent nothing (`Gateway.serve_of_unauthorized`).
So the requests without the key can be left out of a run, and nothing else that happens in it changes
(`Gateway.exchanges_filter_isAuthorized`).

How a request is refused depends on the request and on the framework (`Framework.Refusal`), of which no more is assumed
than that it is lawful. The body of a request for a page is decoded before the key is looked at, hence a
body that cannot be decoded is refused as such, whatever the key.
-/

namespace ODataBrowser

/-! ## The key of a request -/

namespace ApiRequest

/-- Whether the request needs the key: it is one for a route that does. -/
def needsKey (r : ApiRequest) : Bool :=
  match Route.ofPath? r.directed.path with
  | some route => r.method == route.method && route.needsKey
  | none => false

/-- Whether the request has the given key in its header. -/
def holdsKey (key : String) (r : ApiRequest) : Bool :=
  r.headers.get? "x-api-key" = some (.text key)

/-- Whether the request is allowed where the given key is needed. -/
def isAuthorized (key : String) (r : ApiRequest) : Bool :=
  !r.needsKey || r.holdsKey key

@[simp] theorem headers_directed (r : ApiRequest) : r.directed.headers = r.headers := by
  unfold directed
  split <;> rfl

@[simp] theorem method_directed (r : ApiRequest) : r.directed.method = r.method := by
  unfold directed
  split <;> rfl

@[simp] theorem holdsKey_directed (key : String) (r : ApiRequest) : r.directed.holdsKey key = r.holdsKey key := by
  rw [holdsKey, headers_directed, holdsKey]

end ApiRequest

/-- Whether the call is allowed where the given key is needed. -/
def ApiCall.isAuthorized (key : String) (c : ApiCall) : Bool :=
  c.request.isAuthorized key

/-! ## Refusals -/

namespace Framework

/-- The answers by which a framework refuses a request for a route without the key. -/
inductive Refusal (framework : Framework) (route : Route) (r : ApiRequest) : ApiAnswer → Prop where
  | wrongKey (decoded : framework.undecodable? route r = none) (key : (r.headers.get? "x-api-key").isSome) :
      Refusal framework route r .wrongKey
  /-- The missing key is named before all other invalid parts. -/
  | missingKey (decoded : framework.undecodable? route r = none) (key : r.headers.get? "x-api-key" = none)
      (sendable : (framework.objections route r).all (·.isSendable framework.canQuote) = true) :
      Refusal framework route r ⟨422, .invalid ("header.x-api-key" :: (framework.objections route r).map (·.part))⟩
  /-- The key is missing, and another invalid part has a value that no answer can quote. -/
  | unquotable (decoded : framework.undecodable? route r = none) (key : r.headers.get? "x-api-key" = none)
      (unsendable : (framework.objections route r).all (·.isSendable framework.canQuote) = false) :
      Refusal framework route r .internalError
  /-- The body of a request for a page cannot be decoded, whatever the key. -/
  | undecodable {name : String} {answer : ApiAnswer} (page : route = .page name)
      (body : framework.undecodable? route r = some answer) (status : answer.status = 400 ∨ answer.status = 422) :
      Refusal framework route r answer

variable {framework : Framework} {route : Route} {r : ApiRequest}

/-- A missing key is named first, if the answer can quote what else is invalid. -/
theorem refusal_unprocessable (decoded : framework.undecodable? route r = none)
    (hnone : r.headers.get? "x-api-key" = none) :
    framework.Refusal route r
      (framework.unprocessable (⟨"header.x-api-key", []⟩ :: framework.objections route r)) := by
  have hname : Objection.isSendable framework.canQuote ⟨"header.x-api-key", []⟩ = true := rfl
  unfold unprocessable ApiAnswer.unprocessable
  rw [List.all_cons, hname, Bool.true_and]
  cases hall : (framework.objections route r).all (·.isSendable framework.canQuote) with
  | true =>
    rw [if_pos rfl]
    exact .missingKey decoded hnone hall
  | false => exact .unquotable decoded hnone hall

end Framework

namespace Gateway

variable {g : Gateway} {framework : Framework} {key : String} {r : ApiRequest}

/-- Where a key is configured, no other value is accepted. -/
theorem accepts_eq_true_iff (hkey : g.apiKey = .text key) (hne : key ≠ "") {given : Value} :
    g.accepts given = true ↔ given = .text key := by
  have hempty : key.isEmpty = false := by simpa using hne
  unfold accepts
  rw [hkey]
  split
  case h_1 wanted text heq =>
    have hwanted : key = wanted := by simpa using heq
    simp [← hwanted, hempty]
  case h_2 hother =>
    refine iff_of_false ?_ fun h => hother key key rfl h
    simp [Value.isPresent, Scalar.isPresent, JsonText.isEmpty, hempty]

/-- The check of the key raises an answer for any other. -/
theorem requireKey_of_not_holdsKey (hkey : g.apiKey = .text key) (hne : key ≠ "") (hr : r.holdsKey key = false)
    {given : Value} (hgiven : r.headers.get? "x-api-key" = some given) : g.requireKey given = .error .wrongKey := by
  refine if_neg fun haccepts => ?_
  rw [accepts_eq_true_iff hkey hne] at haccepts
  rw [ApiRequest.holdsKey, hgiven, haccepts] at hr
  simp at hr

/-- A lawful framework refuses a request for an endpoint that depends on the key, if the request does not have it. -/
theorem exists_refusal (hframework : framework.Lawful) (hkey : g.apiKey = .text key) (hne : key ≠ "") (route : Route)
    (hr : r.holdsKey key = false) :
    ∃ answer, framework.Refusal route r answer ∧ framework.receive route (some g.requireKey) r = .error answer := by
  cases hbody : framework.undecodable? route r with
  | some answer =>
    obtain ⟨name, hpage⟩ := hframework.page_of_undecodable hbody
    exact ⟨answer, .undecodable hpage hbody (hframework.status_of_undecodable hbody),
      hframework.receive_of_undecodable hbody⟩
  | none =>
    cases hgiven : r.headers.get? "x-api-key" with
    | some given =>
      have hraised := requireKey_of_not_holdsKey hkey hne hr hgiven
      exact ⟨.wrongKey, .wrongKey hbody (by rw [hgiven]; rfl), hframework.receive_of_raised hbody hgiven hraised⟩
    | none => exact ⟨_, Framework.refusal_unprocessable hbody hgiven, hframework.receive_of_missing hbody hgiven⟩

/-- A call that is not allowed is refused at once: the gateway stays as it is, and the service is asked nothing. -/
theorem serve_of_unauthorized (hframework : framework.Lawful) (hkey : g.apiKey = .text key) (hne : key ≠ "")
    {c : ApiCall} (hc : c.isAuthorized key = false) :
    ∃ route answer, Route.ofPath? c.request.directed.path = some route ∧
      framework.Refusal route c.request.directed answer ∧ g.serve framework c = g.answering c.outcomes answer := by
  obtain ⟨hneeds, hr⟩ : c.request.needsKey = true ∧ c.request.holdsKey key = false := by
    simpa [ApiCall.isAuthorized, ApiRequest.isAuthorized] using hc
  unfold ApiRequest.needsKey at hneeds
  cases hroute : Route.ofPath? c.request.directed.path with
  | none => simp [hroute] at hneeds
  | some route =>
    rw [hroute] at hneeds
    obtain ⟨hmethod, hneeds⟩ : c.request.method = route.method ∧ route.needsKey = true := by simpa using hneeds
    have hserve : g.serve framework c = g.handleRoute framework c.now route c.request.directed c.outcomes := by
      simp [serve, handle, hroute, hmethod]
    obtain ⟨answer, hrefusal, hreceived⟩ :=
      exists_refusal hframework hkey hne route (c.request.holdsKey_directed key ▸ hr)
    refine ⟨route, answer, rfl, hrefusal, ?_⟩
    rw [hserve, handleRoute, dependency?_of_needsKey hneeds, hreceived]

/-! ## What no request changes -/

/-- A request for a pager changes the session and the pagers only. -/
theorem close_pager (g : Gateway) (name : String) : (g.pager name).2.close = g.close := by
  unfold pager pagerUnder
  cases g.session with
  | error fault => rfl
  | ok session =>
    dsimp only
    cases g.afterUse.pagers.find? (.text name) with
    | some entry => rfl
    | none =>
      cases Pager.ofArguments (.int g.afterUse.access.pageSize) g.afterUse.access.countStrategy with
      | error fault => rfl
      | ok pager => rfl

/-- No call changes the configuration. -/
theorem close_serve (g : Gateway) (framework : Framework) (c : ApiCall) :
    (g.serve framework c).gateway.close = g.close := by
  cases hresource : c.resource? with
  | none => exact (samePagers_handle hresource g framework c.now c.outcomes).close_eq
  | some name =>
    rw [serve]
    cases answers_handle hresource g framework c.now c.outcomes with
    | atOnce answer eq => rw [eq g rfl, answering]
    | byPager f eq =>
      rw [eq g rfl]
      rcases g.gateway_handleBy name c.outcomes f with heq | ⟨p, heq⟩ <;> rw [heq]
      · exact g.close_pager name
      · exact g.close_pager name

/-! ## Runs -/

/-- What comes of calls one after the other, each with the gateway after it. -/
def exchanges (framework : Framework) : Gateway → List ApiCall → List (ApiCall × ApiExchange)
  | _, [] => []
  | g, c :: later => (c, g.serve framework c) :: exchanges framework (g.serve framework c).gateway later

/-- The gateway after calls one after the other. -/
def afterCalls (g : Gateway) (framework : Framework) (calls : List ApiCall) : Gateway :=
  calls.foldl (fun g c => (g.serve framework c).gateway) g

theorem apiKey_serve (hkey : g.apiKey = .text key) (framework : Framework) (c : ApiCall) :
    (g.serve framework c).gateway.apiKey = .text key :=
  (congrArg (·.apiKey) (g.close_serve framework c)).trans hkey

/-- Every call without the key is refused, with nothing sent to the service and none of its outcomes used. -/
theorem refusal_of_mem_exchanges (hframework : framework.Lawful) (hkey : g.apiKey = .text key) (hne : key ≠ "")
    {calls : List ApiCall} {c : ApiCall} {x : ApiExchange} (hmem : (c, x) ∈ g.exchanges framework calls)
    (hc : c.isAuthorized key = false) :
    (∃ route, Route.ofPath? c.request.directed.path = some route ∧
      framework.Refusal route c.request.directed x.answer) ∧ x.sent = [] ∧ x.pending = c.outcomes := by
  induction calls generalizing g with
  | nil => contradiction
  | cons first later ih =>
    rcases List.mem_cons.1 hmem with heq | hlater
    · obtain ⟨rfl, rfl⟩ := Prod.mk.inj heq
      obtain ⟨route, answer, hroute, hrefusal, hserve⟩ := serve_of_unauthorized hframework hkey hne hc
      rw [hserve]
      exact ⟨⟨route, hroute, hrefusal⟩, rfl, rfl⟩
    · exact ih (apiKey_serve hkey framework first) hlater

/-- Without the calls that are not allowed, the others are answered by the same gateways in the same way. -/
theorem filter_exchanges (hframework : framework.Lawful) (hkey : g.apiKey = .text key) (hne : key ≠ "")
    (calls : List ApiCall) : (g.exchanges framework calls).filter (·.1.isAuthorized key) =
      g.exchanges framework (calls.filter (·.isAuthorized key)) := by
  induction calls generalizing g with
  | nil => rfl
  | cons c later ih =>
    cases hc : c.isAuthorized key with
    | true =>
      simp only [exchanges, List.filter_cons, hc, if_true]
      rw [ih (apiKey_serve hkey framework c)]
    | false =>
      obtain ⟨_, answer, -, -, hserve⟩ := serve_of_unauthorized hframework hkey hne hc
      simp only [exchanges, List.filter_cons, hc, Bool.false_eq_true, if_false, hserve]
      exact ih hkey

theorem afterCalls_filter (hframework : framework.Lawful) (hkey : g.apiKey = .text key) (hne : key ≠ "")
    (calls : List ApiCall) :
    g.afterCalls framework calls = g.afterCalls framework (calls.filter (·.isAuthorized key)) := by
  induction calls generalizing g with
  | nil => rfl
  | cons c later ih =>
    cases hc : c.isAuthorized key with
    | true =>
      rw [List.filter_cons_of_pos hc]
      exact ih (apiKey_serve hkey framework c)
    | false =>
      obtain ⟨_, answer, -, -, hserve⟩ := serve_of_unauthorized hframework hkey hne hc
      rw [List.filter_cons_of_neg (by simp [hc]), afterCalls, List.foldl_cons, hserve]
      exact ih hkey

/-- **Requests without the key go unnoticed.** By a lawful framework every one of them is refused, and nothing is sent
to the service for it. Without them, each of the other requests is answered in the same way by the same gateway, with
the same requests to the service, and comes to the same gateway: one with the same pagers in the same order, and the
same resources. -/
theorem exchanges_filter_isAuthorized (hframework : framework.Lawful) (hkey : g.apiKey = .text key) (hne : key ≠ "")
    (calls : List ApiCall) :
    (∀ c x, (c, x) ∈ g.exchanges framework calls → c.isAuthorized key = false →
      (∃ route, Route.ofPath? c.request.directed.path = some route ∧
        framework.Refusal route c.request.directed x.answer) ∧ x.sent = [] ∧ x.pending = c.outcomes) ∧
    (g.exchanges framework calls).filter (·.1.isAuthorized key) =
      g.exchanges framework (calls.filter (·.isAuthorized key)) ∧
    g.afterCalls framework calls = g.afterCalls framework (calls.filter (·.isAuthorized key)) :=
  ⟨fun _ _ hmem hc => refusal_of_mem_exchanges hframework hkey hne hmem hc, filter_exchanges hframework hkey hne calls,
    afterCalls_filter hframework hkey hne calls⟩

/-- Whoever asks a standard gateway for pages and a reset without its key is refused, and does not change the two
answers that the owner of the key gets. -/
theorem exchanges_filter_isAuthorized_of_four :
    let g := standard "https://host/svc" 2
    let first := standardCall "/resources/A/page" [.json 200 "\x7b\"value\":[\x7b\"n\":1\x7d],\"count\":7\x7d"]
    let call (path : String) (headers : Headers) : ApiCall :=
      ⟨.int 0, { method := "POST", path := path.toList, headers, body := "\x7b\x7d" }, [.json 500 "[]"]⟩
    let others := [call "/resources/B/page" [("x-api-key", .text "guess")], call "/resources/A/reset" []]
    let last := standardCall "/resources/A/page" [.json 200 "\x7b\"value\":[\x7b\"n\":2\x7d],\"count\":8\x7d"]
    let calls := first :: others ++ [last]
    Framework.standard.Lawful ∧ g.apiKey = .text "key" ∧ "key" ≠ "" ∧ (∀ c ∈ others, c.isAuthorized "key" = false) ∧
    (g.exchanges .standard calls).map (fun exchange => (exchange.2.answer.status, exchange.2.sent.length)) =
      [(200, 1), (401, 0), (422, 0), (200, 1)] ∧
    (g.exchanges .standard calls).filter (·.1.isAuthorized "key") = g.exchanges .standard [first, last] ∧
    g.afterCalls .standard calls = g.afterCalls .standard [first, last] := by
  intro g first call others last calls
  have hkey : g.apiKey = .text "key" := rfl
  have hne : "key" ≠ "" := by decide
  have hothers : ∀ c ∈ others, c.isAuthorized "key" = false := by decide
  have howner : ∀ c ∈ [first, last], c.isAuthorized "key" = true := by decide +kernel
  have honly : calls.filter (·.isAuthorized "key") = [first, last] := by
    have hnone : others.filter (·.isAuthorized "key") = [] :=
      List.filter_eq_nil_iff.2 fun c hc => by simp [hothers c hc]
    simp [calls, howner, hnone]
  obtain ⟨-, hsame, hafter⟩ := exchanges_filter_isAuthorized Framework.lawful_standard hkey hne calls
  rw [honly] at hsame hafter
  exact ⟨Framework.lawful_standard, hkey, hne, hothers, by decide +kernel, hsame, hafter⟩

/-- A request with a wrong key and a body that is no JSON is told that its body is invalid, not that its key is. -/
theorem status_of_wrong_key_with_malformed_body :
    let g := standard "https://host/svc" 2
    let r : ApiRequest :=
      { method := "POST", path := "/resources/A/page".toList, headers := [("x-api-key", .text "guess")], body := "\x7b" }
    g.apiKey = .text "key" ∧ r.isAuthorized "key" = false ∧ (r.headers.get? "x-api-key").isSome ∧
      (g.serve .standard ⟨.int 0, r, []⟩).answer.status = 422 ∧ (g.serve .standard ⟨.int 0, r, []⟩).answer.status ≠ 401 := by
  intro g r
  have hstatus : (g.serve .standard ⟨.int 0, r, []⟩).answer.status = 422 := by decide
  exact ⟨rfl, by decide, rfl, hstatus, by rw [hstatus]; decide⟩

end Gateway

end ODataBrowser
