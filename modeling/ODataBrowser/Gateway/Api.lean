import ODataBrowser.Gateway.Basic
import ODataBrowser.Gateway.Framework
import ODataBrowser.Resource.Search

/-!
# Answering requests

Users of a gateway can ask whether it is up, list the resources, load a page of a resource, and reset a resource. All
but the first need the key.
-/

namespace ODataBrowser

/-- What a request of a user came to: the answer, the gateway after it, the requests that were sent, and
the outcomes that are left. -/
structure ApiExchange where
  answer : ApiAnswer
  gateway : Gateway
  sent : List Request
  pending : List Outcome

namespace Gateway

/-! ### The key -/

/-- Whether a key is the one that users must give, if there is one. -/
def accepts (g : Gateway) (key : Value) : Bool :=
  match g.apiKey, key with
  | .text wanted, .text given => wanted.isEmpty || given == wanted
  | wanted, _ => !wanted.isPresent

/-- Checks the key of a request. -/
def requireKey (g : Gateway) : KeyCheck := fun key =>
  if g.accepts key then .ok () else .error .wrongKey

/-- The check that the endpoint of a route depends on. -/
def dependency? (g : Gateway) (route : Route) : Option KeyCheck :=
  if route.needsKey then some g.requireKey else none

/-- An answer that needs nothing from the service. -/
def answering (g : Gateway) (outcomes : List Outcome) (answer : ApiAnswer) : ApiExchange :=
  ⟨answer, g, [], outcomes⟩

/-! ### The answers -/

/-- The answer to the question for the resources that match a search term. -/
def resourcesAnswer (g : Gateway) (term : String) : Except Fault (List Resource × Bool) → ApiAnswer
  | .ok (resources, cached) =>
    let hits := searchResources resources (.string term)
    .ofSent? ((hits.mapM Resource.sent?).map fun sent =>
      .ofFields [
        ("service_url", .text g.access.serviceUrl),
        ("count", .int sent.length),
        ("cached", .bool cached),
        ("resources", .list sent)])
  | .error (.noResources cause) =>
    .badGateway ((Fault.noResources cause).message?.getD .null) [("service_url", .text g.access.serviceUrl)]
  | .error _ => .internalError

/-- Lists the resources that match the search term. -/
def listResources (g : Gateway) (now : Value) (term : String) (outcomes : List Outcome) : ApiExchange :=
  let (found, after) := g.resources now outcomes
  ⟨g.resourcesAnswer term found.result, after, found.sent, found.pending⟩

/-- The page size of a form: that of the gateway where it asks for none, and never more than the largest
one. -/
def sizeOf (g : Gateway) (form : PageForm) : Except Fault Value :=
  (Value.int (form.size.getD g.access.pageSize)).least g.maxPageSize

/-- The load that a form asks for. -/
def loadArguments (g : Gateway) (resource : String) (form : PageForm) : Except Fault LoadArguments := do
  let size ← g.sizeOf form
  let sorts ← form.sorts
  let filters ← form.conditions
  return { resource := .text resource, skip := .int form.skip, size, sorts := sorts.map some, filters }

/-- The answer to what a load came to. -/
def pageAnswer (resource : String) : Except Fault PageResult → ApiAnswer
  | .ok page => .ofSent? page.sent?
  | .error (.fetch e _) =>
    .badGateway e.message [("upstream_status", e.status), ("resource", .text resource)]
  | .error _ => .internalError

/-- Loads the page that a form asks for. -/
def loadPage (g : Gateway) (resource : String) (form : PageForm) (outcomes : List Outcome) : ApiExchange :=
  match g.loadArguments resource form with
  | .error _ => g.answering outcomes .internalError
  | .ok arguments =>
    match g.pager resource with
    | (.error _, after) => after.answering outcomes .internalError
    | (.ok obtained, after) =>
      let load := obtained.pager.load obtained.session arguments outcomes
      ⟨pageAnswer resource load.result, after.store resource load.pager, load.sent, load.pending⟩

/-- Resets the pager of a resource. -/
def resetPager (g : Gateway) (resource : String) (outcomes : List Outcome) : ApiExchange :=
  match g.pager resource with
  | (.error _, after) => after.answering outcomes .internalError
  | (.ok obtained, after) =>
    (after.store resource (obtained.pager.reset (.text resource))).answering outcomes
      ⟨200, .json (.ofFields [("resource", .text resource), ("reset", .bool true)])⟩

/-! ### Requests -/

/-- Calls the endpoint of a route at the given time. -/
def respond (g : Gateway) (now : Value) (outcomes : List Outcome) : (route : Route) → route.Arguments → ApiExchange
  | .health, _ => g.answering outcomes .healthy
  | .resources, search => g.listResources now (search.getD "") outcomes
  | .page resource, form => g.loadPage resource form outcomes
  | .reset resource, _ => g.resetPager resource outcomes

/-- Answers a request for a route at the given time. -/
def handleRoute (g : Gateway) (framework : Framework) (now : Value) (route : Route) (r : ApiRequest)
    (outcomes : List Outcome) : ApiExchange :=
  match framework.receive route (g.dependency? route) r with
  | .error answer => g.answering outcomes answer
  | .ok arguments => g.respond now outcomes route arguments

/-- Answers a request at the given time. -/
def handle (g : Gateway) (framework : Framework) (now : Value) (r : ApiRequest) (outcomes : List Outcome) :
    ApiExchange :=
  let r := r.directed
  match Route.ofPath? r.path with
  | none => g.answering outcomes (ApiAnswer.notFound.arriving r.method)
  | some route =>
    if r.method != route.method then g.answering outcomes (ApiAnswer.methodNotAllowed.arriving r.method)
    else g.handleRoute framework now route r outcomes

end Gateway

end ODataBrowser
