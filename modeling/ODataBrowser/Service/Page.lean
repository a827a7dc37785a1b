import ODataBrowser.Envelope
import ODataBrowser.Query.Url
import ODataBrowser.Service.Session

/-!
# Pages of a resource

A page is read by one request. Its response must be JSON; the rows and the total are taken from its
envelope.
-/

namespace ODataBrowser

/-- The rows of a page, the total if the response gives one, and the address of the page. -/
structure Page where
  rows : List Value
  total : Option Int
  url : JsonText

namespace Page

/-- Whether a value has the form of a wrapped body that is not JSON. -/
def isWrapped : Value → Bool
  | .map entries =>
    entries.length == 2 && (Value.lookup? entries "raw").isSome &&
      (Value.lookup? entries "content_type").isSome
  | _ => false

/-- The error of a wrapped body. -/
def notJson (payload : Value) (url : JsonText) : Fault :=
  let contentType := (payload.field "content_type").orElse (.text "unknown content type")
  let message := contentType.asText.behind "Expected a JSON response, got ".toList
  match ServiceError.ofParts? (.int 200) (payload.field "raw") (.textual url)
      (.ofFields [("Content-Type", contentType)]) (.textual message) with
  | some e => .request (.refused e)
  | none => .wrongKind

/-- The page that a payload holds. -/
def ofPayload (payload : Value) (url : JsonText) : Except Fault Page :=
  if isWrapped payload then .error (notJson payload url)
  else (Envelope.total payload).map fun total => ⟨Envelope.rows payload, total, url⟩

/-- The page that a request to the address came to. -/
def ofOutcome (outcome : Outcome) (url : JsonText) : Except Fault Page := do
  let payload ← outcome.payload url
  ofPayload payload url

end Page

/-- Reads the page of a resource that a query asks for. Without an address for the query, nothing is sent. -/
def Session.readPage (s : Session) (resource : JsonText) (query : Query.PageQuery)
    (outcomes : List Outcome) : Exchange Page :=
  match query.toUrl (resourceUrl s.base resource) with
  | .error fault => ⟨.error fault, [], outcomes⟩
  | .ok url =>
    let (outcome, pending) := nextOutcome outcomes
    ⟨Page.ofOutcome outcome url, [s.dataRequest url], pending⟩

/-- What a page is asked for by, loosely typed. -/
structure PageArguments where
  resource : Value
  top : Value := .null
  skip : Value := .null
  orderBy : Value := .null
  filter : Value := .null
  count : Value := .null

/-- The name of the resource and the query that the arguments describe. -/
def PageArguments.read (arguments : PageArguments) : Except Fault (JsonText × Query.PageQuery) := do
  let resource ← arguments.resource.toJsonText
  let query ← Query.PageQuery.ofArguments arguments.top arguments.skip arguments.orderBy arguments.filter
    arguments.count
  return (resource, query)

/-- Reads the page that loosely typed arguments describe. -/
def Session.readPageOf (s : Session) (arguments : PageArguments) (outcomes : List Outcome) : Exchange Page :=
  match arguments.read with
  | .error fault => ⟨.error fault, [], outcomes⟩
  | .ok (resource, query) => s.readPage resource query outcomes

end ODataBrowser
