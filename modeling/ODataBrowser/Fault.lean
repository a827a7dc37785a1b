import ODataBrowser.Value.Display

/-!
# Faults

Everything that can go wrong, by cause. A request can fail in the transport or be refused by the
service; a page load and a discovery report the failure that led to them; the other faults are about
values that have no reading of the kind asked for.
-/

namespace ODataBrowser

/-- How a transport fails. -/
inductive TransportFailure where
  | connection
  | timeout
  | http
  | tooManyRedirects
  | request
deriving DecidableEq, Repr

/-- An answer of the service that cannot be used. -/
structure ServiceError where
  status : Value
  /-- The body of the answer, mostly a text; all else is kept as what it is. -/
  body : Value
  url : Value
  headers : Value
  /-- The best message that the answer gives. -/
  message : Value

namespace ServiceError

/-- The part of a body that is shown: its first 1200 characters or items, or `none` for a value that has
neither. -/
def snippet? (body : Value) : Option Value :=
  match body.orElse (.text "") with
  | .textual t => some (.textual (.ofPoints (t.points.take 1200)))
  | .list items => some (.list (items.take 1200))
  | _ => none

/-- The text of the error. -/
def text (e : ServiceError) : JsonText :=
  .joined [.string "OData upstream error ", e.status.asText, .string " for ", e.url.asText, .string ": ",
    ((snippet? e.body).getD (.text "")).asText]

/-- The message of an error: the one given, or else the part of the body that is shown, or else the
status. -/
def messageOr (message shown status : Value) : Value :=
  message.orElse (shown.orElse (.textual (status.asText.behind "HTTP ".toList)))

/-- The error with the given parts, where the body is a string. -/
def ofBody (status : Int) (body : String) (url : JsonText) (headers message : Value) : ServiceError :=
  let shown := Value.text (String.ofList (body.toList.take 1200))
  ⟨.int status, .text body, .textual url, headers, messageOr message shown (.int status)⟩

/-- The error with the given parts. A body that has no part to show is a fault. -/
def ofParts? (status body url headers message : Value) : Option ServiceError :=
  (snippet? body).map fun shown =>
    ⟨status, body.orElse (.text ""), url, headers.orElse (.map []), messageOr message shown status⟩

end ServiceError

/-- A page that could not be loaded. -/
structure FetchError where
  resource : Value
  /-- The status of the answer, null where the transport failed. -/
  status : Value
  message : Value

/-- The text of a fetch error. -/
def FetchError.text (e : FetchError) : JsonText :=
  .joined [.string "Failed to fetch data for ", e.resource.asText, .string ": ", e.message.asText]

/-- What stops a request for a page or a document. -/
inductive RequestFailure where
  | refused (e : ServiceError)
  | transport (kind : TransportFailure) (message : String)

/-- A setting without which a gateway cannot serve. -/
inductive GatewaySetting where
  | serviceUrl
  | credentials
  | apiKey
deriving DecidableEq, Repr

/-- The message about a setting that a gateway lacks. -/
def GatewaySetting.message : GatewaySetting → String
  | .serviceUrl => "Missing ODATA_SERVICE_URL environment variable"
  | .credentials => "Missing ODATA_USER/ODATA_PASS or ODATA_BEARER_TOKEN"
  | .apiKey => "Missing ODATA_API_KEY - required for security"

/-- What a call can end with instead of an answer. -/
inductive Fault where
  /-- A text, or a number that is none, has no reading of the kind asked for. -/
  | unreadable
  /-- A number or a time lies outside the range. -/
  | outOfRange
  /-- A value is of a kind that the operation does not take. -/
  | wrongKind
  /-- A name or an address is not a text. -/
  | notText
  /-- A column has no type. -/
  | noSuchKey
  /-- A pair lacks a part. -/
  | missingPart
  /-- A signaling not-a-number was compared. -/
  | signalingComparison
  /-- A decimal is too large to calculate with. -/
  | decimalOverflow
  /-- A value is nested too deeply. -/
  | tooDeep
  /-- A text with a lone surrogate cannot be part of an address. -/
  | unencodable
  /-- The target of a request cannot be sent. -/
  | badTarget
  /-- A request that wants an answer was sent to a socket. -/
  | socketTarget
  /-- A count strategy that does not exist, shown as a literal. -/
  | unknownStrategy (shown : String)
  /-- Authentication is neither basic nor bearer. -/
  | unknownAuthentication
  /-- A connection lacks the root address of its service. -/
  | noServiceUrl
  /-- A connection lacks a login and a token. -/
  | noCredentials
  /-- A gateway lacks a setting that it needs. -/
  | incompleteGateway (setting : GatewaySetting)
  /-- Neither document lists a resource. -/
  | noResources (cause : Option RequestFailure)
  /-- The transport did not accept the request. -/
  | unsendable
  /-- The request for a page or a document failed. -/
  | request (failure : RequestFailure)
  /-- A page load failed. -/
  | fetch (e : FetchError) (cause : RequestFailure)

/-- What comes of two steps came of each of them. -/
theorem Fault.exists_of_bind_eq_ok {ε α β : Type} {x : Except ε α} {f : α → Except ε β} {b : β}
    (h : x >>= f = .ok b) : ∃ a, x = .ok a ∧ f a = .ok b := by
  cases x with
  | error fault => exact absurd h (by simp [bind, Except.bind])
  | ok a => exact ⟨a, rfl, h⟩

/-- A fault of two steps is that of one of them. -/
theorem Fault.eq_error_of_bind {α β : Type} {x : Except Fault α} {f : α → Except Fault β} {fault : Fault}
    (h : x >>= f = .error fault) : x = .error fault ∨ ∃ a, x = .ok a ∧ f a = .error fault := by
  cases x with
  | error fault' => exact .inl (congrArg Except.error (Except.error.inj h))
  | ok a => exact .inr ⟨a, rfl, h⟩

theorem Fault.exists_of_map_eq_ok {α β : Type} {x : Except Fault α} {f : α → β} {b : β} (h : x.map f = .ok b) :
    ∃ a, x = .ok a ∧ f a = b := by
  cases x with
  | error fault => contradiction
  | ok a => exact ⟨a, rfl, Except.ok.inj h⟩

theorem Fault.eq_error_of_map {α β : Type} {x : Except Fault α} {f : α → β} {fault : Fault}
    (h : x.map f = .error fault) : x = .error fault := by
  cases x with
  | error other => exact congrArg Except.error (Except.error.inj h)
  | ok a => contradiction

theorem Fault.eq_ok_of_toOption {α : Type} {x : Except Fault α} {a : α} (h : x.toOption = some a) :
    x = .ok a := by
  cases x with
  | error fault => cases h
  | ok b => rw [Option.some.inj h]

/-- The message of a failed request. -/
def RequestFailure.message : RequestFailure → Value
  | .refused e => e.message
  | .transport _ message => .text message

/-- The message of a fault that has one of its own. -/
def Fault.message? : Fault → Option Value
  | .unknownStrategy shown => some (.text ("Unknown count strategy: " ++ shown))
  | .unknownAuthentication => some (.text "auth.kind must be 'basic' or 'bearer'")
  | .noServiceUrl => some (.text ("Missing service_url. Set ODATA_SERVICE_URL environment variable " ++
      "or pass service_url parameter."))
  | .noCredentials => some (.text ("Missing credentials. Set ODATA_USER/ODATA_PASS or ODATA_BEARER_TOKEN " ++
      "environment variables, or pass user/password or bearer_token parameters."))
  | .incompleteGateway setting => some (.text setting.message)
  | .noResources _ => some (.text "No resources found in service document or $metadata")
  | .request failure => some failure.message
  | .fetch e _ => some e.message
  | _ => none

end ODataBrowser
