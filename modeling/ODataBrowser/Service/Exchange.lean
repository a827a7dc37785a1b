import ODataBrowser.Fault
import ODataBrowser.Text.Lowercase

/-!
# Exchanges with a service

A request is answered by a response, or the transport fails. The outcomes of the requests to come are a
list, used up one by one; where it ends, no connection can be made.
-/

namespace ODataBrowser

open Text

/-- Header fields in the order in which they were set. Their values are mostly texts. -/
abbrev Headers := List (String × Value)

namespace Headers

/-- Sets a field: one of exactly this name keeps its place. -/
def put (headers : Headers) (name : String) (value : Value) : Headers :=
  if headers.any (·.1 == name) then
    headers.map fun field => if field.1 == name then (name, value) else field
  else headers ++ [(name, value)]

/-- Sets several fields. -/
def putAll (headers new : Headers) : Headers :=
  new.foldl (fun headers (name, value) => headers.put name value) headers

/-- A name without its case. -/
def key (name : String) : List Char :=
  lowercase name.toList

/-- Sets a field of a response: one of this name in any case keeps its place, but takes the new
spelling. -/
def receive (headers : Headers) (name : String) (value : Value) : Headers :=
  if headers.any (fun field => key field.1 == key name) then
    headers.map fun field => if key field.1 == key name then (name, value) else field
  else headers ++ [(name, value)]

/-- The fields of a response, given as they arrive. -/
def ofReceived (fields : Headers) : Headers :=
  fields.foldl (fun headers (name, value) => headers.receive name value) []

/-- The value of the field of the given name in any case. -/
def get? (headers : Headers) (name : String) : Option Value :=
  (headers.find? fun field => key field.1 == key name).map (·.2)

end Headers

/-- An answer of the service. -/
structure Response where
  status : Int
  /-- The phrase that goes with the status. -/
  reason : String
  headers : Headers
  body : String

/-- The content type of a response, empty where it gives none. -/
def Response.contentType (r : Response) : Value :=
  (r.headers.get? "Content-Type").getD (.text "")

/-- What a request can come to. -/
inductive Outcome where
  | response (r : Response)
  | failure (kind : TransportFailure) (message : String)
  /-- The transport does not accept the request. -/
  | unsendable

/-- The outcome of the next request, and those after it. -/
def nextOutcome : List Outcome → Outcome × List Outcome
  | [] => (.failure .connection "no response queued", [])
  | outcome :: rest => (outcome, rest)

/-- A request to the service. -/
structure Request where
  url : JsonText
  headers : Headers
  /-- The user and password for basic authentication. -/
  login : Option (Value × Value)
  /-- The time limit in seconds. -/
  timeout : Binary64
  /-- Whether, or against which certificates, the service is verified. -/
  verify : Value

/-- What a call came to: its result, the requests that were sent, and the outcomes that are left. -/
structure Exchange (α : Type) where
  result : Except Fault α
  sent : List Request
  pending : List Outcome

end ODataBrowser
