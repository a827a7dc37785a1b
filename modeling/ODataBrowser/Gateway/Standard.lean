import ODataBrowser.Gateway.BodyText
import ODataBrowser.Gateway.FormReader
import ODataBrowser.Gateway.Framework
import ODataBrowser.Json.Reader

/-!
# A standard framework

The framework that a gateway is usually served by reads the body of a page request as JSON, if it is not meant to be
something else, and then the form in it.
-/

namespace ODataBrowser.Framework.Standard

/-- Whether the body of a request is meant to be JSON. -/
def hasJsonBody (r : ApiRequest) : Bool :=
  match r.headers.get? "content-type" with
  | some (.text contentType) => BodyText.isJsonType contentType.toList
  | _ => true

/-- The form in the JSON body of a request. A body that cannot be read is answered at once. -/
def jsonFormOf (body : String) : Except ApiAnswer (Except (List Objection) PageForm) :=
  match (BodyText.read? body).map Json.readSource with
  | some (.ok v) => .ok (PageForm.read v)
  | some (.error .notJson) => .error ⟨422, .invalid ["body"]⟩
  | some (.error _) | none => .error .unreadableBody

/-- The form in the body of a request. A body that is missing, or not meant to be JSON, is invalid. -/
def formOf (r : ApiRequest) : Except ApiAnswer (Except (List Objection) PageForm) :=
  if r.body.isEmpty || !hasJsonBody r then .ok (.error [⟨"body", []⟩]) else jsonFormOf r.body

/-- What the endpoint of a route is called with, or what is wrong with it. -/
def argumentsOf (r : ApiRequest) : (route : Route) → Except ApiAnswer (Except (List Objection) route.Arguments)
  | .health | .reset _ => .ok (.ok ())
  | .resources => .ok (.ok (r.option? "search"))
  | .page _ => formOf r

/-- Checks the key of a request. A missing one is invalid. -/
def checkKey (r : ApiRequest) : Option KeyCheck → Except ApiAnswer (List Objection)
  | none => .ok []
  | some check =>
    match r.headers.get? "x-api-key" with
    | some key => (check key).map fun _ => []
    | none => .ok [⟨"header.x-api-key", []⟩]

/-- The arguments, where neither they nor the key are invalid. -/
def validated {α : Type} (missing : List Objection) (arguments : Except (List Objection) α) : Except ApiAnswer α :=
  match missing, arguments with
  | [], .ok arguments => .ok arguments
  | missing, .ok _ => .error (.unprocessable Value.isQuotable missing)
  | missing, .error objections => .error (.unprocessable Value.isQuotable (missing ++ objections))

end Standard

open Standard in
/-- The standard framework. -/
def standard : Framework where
  canQuote := Value.isQuotable
  undecodable? route r :=
    match argumentsOf r route with
    | .error answer => some answer
    | .ok _ => none
  objections route r :=
    match argumentsOf r route with
    | .ok (.error objections) => objections
    | _ => []
  receive route check? r := do
    let arguments ← argumentsOf r route
    let missing ← checkKey r check?
    validated missing arguments

end ODataBrowser.Framework
