import ODataBrowser.Gateway.Answer
import ODataBrowser.Gateway.PageForm
import ODataBrowser.Gateway.Request

/-!
# Web frameworks

A gateway is served by a web framework, which reads the requests of users. For each it calls an endpoint with the
arguments that it finds in the request, or it answers the request itself because it cannot use it. An endpoint may
depend on a check of the key, which may refuse the request too.

The framework is no part of the gateway. Its data are those of a `Framework`, and what is known about them is
`Framework.Lawful`: the body of a request is decoded first, then the key is checked, and then all is validated.
-/

namespace ODataBrowser

/-- What the endpoint of a route is called with, besides the name in its path. -/
abbrev Route.Arguments : Route → Type
  | .health | .reset _ => Unit
  | .resources => Option String
  | .page _ => PageForm

/-- A check of the key of a request, which may raise an answer. -/
abbrev KeyCheck := Value → Except ApiAnswer Unit

/-- A web framework. -/
structure Framework where
  /-- Whether a value can be quoted in an answer. -/
  canQuote : Value → Bool
  /-- The answer to a request whose body cannot be decoded, none where it can. -/
  undecodable? : Route → ApiRequest → Option ApiAnswer
  /-- What is wrong with a request that is decoded, apart from its key. -/
  objections : Route → ApiRequest → List Objection
  /-- What the endpoint of a route is called with, given the check that it depends on, or else the answer. -/
  receive : (route : Route) → Option KeyCheck → ApiRequest → Except ApiAnswer route.Arguments

namespace Framework

/-- The answer to a request with invalid parts. -/
def unprocessable (framework : Framework) (objections : List Objection) : ApiAnswer :=
  .unprocessable framework.canQuote objections

/-- What a gateway relies on. -/
structure Lawful (framework : Framework) : Prop where
  /-- The endpoint of a page is the only one with a body. -/
  page_of_undecodable {route : Route} {r : ApiRequest} {answer : ApiAnswer}
    (undecodable : framework.undecodable? route r = some answer) : ∃ name, route = .page name
  /-- A body that cannot be decoded is a bad request or an invalid one. -/
  status_of_undecodable {route : Route} {r : ApiRequest} {answer : ApiAnswer}
    (undecodable : framework.undecodable? route r = some answer) : answer.status = 400 ∨ answer.status = 422
  /-- A body that cannot be decoded is answered before the key is checked. -/
  receive_of_undecodable {route : Route} {check? : Option KeyCheck} {r : ApiRequest} {answer : ApiAnswer}
    (undecodable : framework.undecodable? route r = some answer) : framework.receive route check? r = .error answer
  /-- What the check of the key raises is the answer, whatever else is wrong. -/
  receive_of_raised {route : Route} {check : KeyCheck} {r : ApiRequest} {key : Value} {answer : ApiAnswer}
    (decoded : framework.undecodable? route r = none) (given : r.headers.get? "x-api-key" = some key)
    (raised : check key = .error answer) : framework.receive route (some check) r = .error answer
  /-- A key that is missing is the first of the invalid parts, all of which are named. -/
  receive_of_missing {route : Route} {check : KeyCheck} {r : ApiRequest}
    (decoded : framework.undecodable? route r = none) (missing : r.headers.get? "x-api-key" = none) :
    framework.receive route (some check) r =
      .error (framework.unprocessable (⟨"header.x-api-key", []⟩ :: framework.objections route r))

end Framework

end ODataBrowser
