import ODataBrowser.Resource.Basic
import ODataBrowser.Service.ErrorMessage
import ODataBrowser.Text.Search
import ODataBrowser.Value.Conversion

/-!
# Sessions

A session belongs to one service. It holds what every request shares: the root address, which is kept without
white space around it and without slashes at its end, the authentication, the header fields and the time limit.
A request comes to the value or the text of its response; a response with a status of 400 or more is an error.
-/

namespace ODataBrowser

open Text

/-! ### The root address -/

/-- The root address as it is kept. -/
def cleanUrl (url : String) : String :=
  String.ofList (dropEndWhile (· == '/') (strip url.toList))

/-- The root address that is given by a value. -/
def cleanAddress (v : Value) : Except Fault String :=
  v.toTextOrEmpty.map cleanUrl

/-- The address of a path below the root, the root itself for an empty path. -/
def pathUrl (base path : String) : String :=
  match path.toList.dropWhile (· == '/') with
  | [] => base
  | rest => String.ofList (base.toList ++ '/' :: rest)

/-! ### The session -/

/-- How a session proves who asks. -/
inductive Authentication where
  | basic (user password : Value)
  | bearer (token : Value)
  /-- A kind that does not exist. -/
  | unknown

/-- The settings of a session. -/
structure Settings where
  serviceUrl : Value
  authentication : Authentication
  language : Value := .text "EN"
  /-- The time limit of a request in seconds. -/
  timeout : Value := .int 60
  /-- How often a request is tried again when the service is overloaded. -/
  retries : Value := .int 3
  /-- The factor between the pauses before these tries. -/
  backoff : Value := .float (.ofDecimal false 5 (-1))
  verify : Value := .bool true
  userAgent : Value := .text "odata-explorer/0.1"
  pageSize : Value := .int 25
  countStrategy : Value := .text "inlinecount"

/-- The statuses after which a request is tried again. -/
def retryStatuses : List Nat := [429, 500, 502, 503, 504]

/-- The methods that are tried again. -/
def retryMethods : List String := ["GET", "HEAD", "OPTIONS"]

/-- What all requests to a service share. -/
structure Session where
  settings : Settings
  /-- The root address. -/
  base : String
  timeout : Binary64
  headers : Headers
  /-- The user and password for basic authentication. -/
  login : Option (Value × Value)

namespace Session

/-- The header field and the login by which a session proves who asks. -/
def credentials : Authentication → Except Fault (Headers × Option (Value × Value))
  | .basic user password => .ok ([], some (user, password))
  | .bearer token => .ok ([("Authorization", .textual (token.asText.behind "Bearer ".toList))], none)
  | .unknown => .error .unknownAuthentication

/-- Opens a session with the given settings. -/
def start (settings : Settings) : Except Fault Session := do
  let address ← settings.serviceUrl.toText
  let timeout ← settings.timeout.toBinary64
  let (authorization, login) ← credentials settings.authentication
  let language ← settings.language.toText
  let headers := authorization ++ [
    ("Accept", .text "application/json"),
    ("Accept-Language", .textual (.ofChars (lowercase language.toList))),
    ("DataServiceVersion", .text "2.0"),
    ("MaxDataServiceVersion", .text "2.0"),
    ("User-Agent", settings.userAgent)]
  return { settings, base := cleanUrl address, timeout, headers, login }

/-- A request of the session for an address, with additional header fields. -/
def request (s : Session) (url : JsonText) (headers : Headers) : Request :=
  ⟨url, s.headers.putAll headers, s.login, s.timeout, s.settings.verify⟩

/-- The request for the JSON data at an address. -/
def dataRequest (s : Session) (url : JsonText) : Request :=
  s.request url [("Accept", .text "application/json")]

/-- Whether the path is that of a metadata document. -/
def isMetadataPath (path : String) : Bool :=
  path == "$metadata" || "/$metadata".toList.isSuffixOf path.toList

/-- The request for the document at a path below the root. -/
def documentRequest (s : Session) (path : String) (headers : Headers) : Request :=
  let accept := if isMetadataPath path then [("Accept", .text "application/xml")] else []
  s.request (pathUrl s.base path) (Headers.putAll accept headers)

end Session

/-! ### Responses -/

/-- The error of a response with a status of 400 or more. -/
def Response.refusal (r : Response) (url : JsonText) : Except Fault ServiceError := do
  let message ← ErrorMessage.ofResponse r
  return .ofBody r.status r.body url (.ofFields r.headers) (.textual message)

/-- The response that a request to the address came to, unless it is an error. -/
def Outcome.received (outcome : Outcome) (url : JsonText) : Except Fault Response :=
  match outcome with
  | .response r =>
    if 400 ≤ r.status then (r.refusal url).bind fun e => .error (.request (.refused e)) else .ok r
  | .failure kind message => .error (.request (.transport kind message))
  | .unsendable => .error .unsendable

/-- The wrapper of a body that is not JSON. -/
def Response.wrapped (r : Response) : Value :=
  .ofFields [("raw", .text r.body), ("content_type", r.contentType)]

/-- The value of a response: its JSON value if its content type says so, and else its body in a
wrapper. -/
def Response.payload (r : Response) : Except Fault Value := do
  let contentType ← r.contentType.toTextOrEmpty
  if occurs "json".toList (lowercase contentType.toList) then return (← Json.read? r.body).getD r.wrapped
  else return r.wrapped

/-- The value that a request to the address came to. -/
def Outcome.payload (outcome : Outcome) (url : JsonText) : Except Fault Value := do
  (← outcome.received url).payload

/-- The text that a request to the address came to. -/
def Outcome.text (outcome : Outcome) (url : JsonText) : Except Fault String :=
  (outcome.received url).map Response.body

end ODataBrowser
