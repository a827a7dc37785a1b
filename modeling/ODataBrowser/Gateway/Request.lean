import ODataBrowser.Gateway.Target
import ODataBrowser.Service.Exchange

/-!
# Requests of users

A user sends a method, a target, header fields and perhaps a body. The target leads to a path and perhaps holds a
query string, which is a list of options. Of several options with one name the last one counts.
-/

namespace ODataBrowser

open Text

/-- A request of a user. -/
structure ApiRequest where
  method : String
  /-- The path, with its percent escapes decoded. -/
  path : List Char
  /-- The options of the query string. -/
  query : List (String × String) := []
  headers : Headers := []
  /-- The text of the body, which is meant to be JSON. -/
  body : String := ""

namespace ApiRequest

/-! ### Options -/

/-- An option of a query string with its value. Pluses stand for spaces. -/
def option (cs : List Char) : String × String :=
  let (name, value) := splitWhile (· != '=') (cs.map fun c => if c = '+' then ' ' else c)
  (String.ofList (Query.decodeComponent name), String.ofList (Query.decodeComponent value.tail))

/-- The options of a query string. -/
def optionsOf (cs : List Char) : List (String × String) :=
  (splitAtEach '&' cs).map option

/-- The value of an option. -/
def option? (r : ApiRequest) (name : String) : Option String :=
  r.query.reverse.lookup name

/-- The text of a loosely typed value of an option. -/
def optionText : Value → String
  | .null => ""
  | .bool b => if b then "true" else "false"
  | v => v.displayText

/-- The values of an option: the items of a list, or the one value. -/
def optionValues : Value → List String
  | .list items => items.map optionText
  | v => [optionText v]

/-- Adds loosely typed options, which replace those of their names. -/
def withOptions (r : ApiRequest) (options : List (String × Value)) : ApiRequest :=
  { r with query := r.query.filter (fun option => (options.lookup option.1).isNone) ++
      options.flatMap fun (name, v) => (optionValues v).map (name, ·) }

/-! ### Requests -/

/-- Checks that a header field can be sent: its name and its value are texts in ASCII. -/
def checkHeader (name : String) (value : Value) : Except Fault Unit :=
  match value with
  | .text s =>
    if (name.toList ++ s.toList).all fun c => c.toNat < 128 then .ok () else .error .unencodable
  | _ => .error .wrongKind

/-- The request for a target, if it can be sent. The method may be given in any case. -/
def send (method : String) (target : List Char) (headers : Headers) (body : String) :
    Except Fault ApiRequest := do
  let target ← Target.read target
  headers.forM fun (name, value) => checkHeader name value
  target.checkScheme
  return {
    method := String.ofList (method.toList.map Char.toUpper)
    path := target.arriving
    query := optionsOf target.query
    headers, body }

/-- The target of an action on a resource. -/
def actionTarget (resource action : String) : List Char :=
  "/resources/".toList ++ Query.encodeComponent resource.toList ++ '/' :: action.toList

/-- The request without the slashes at the end of its path, as it is sent again. -/
def withoutEndSlashes (r : ApiRequest) : ApiRequest :=
  { r with path := arrivingPath (settledPath (encodePath (dropEndWhile (· == '/') r.path))) }

end ApiRequest

/-! ### Routes -/

/-- What a user can ask for. -/
inductive Route where
  | health
  | resources
  | page (resource : String)
  | reset (resource : String)
deriving DecidableEq, Repr

namespace Route

/-- The route of exactly the given path. -/
def ofExactPath? (path : List Char) : Option Route :=
  match (splitAtEach '/' path).map String.ofList with
  | ["", "health"] => some .health
  | ["", "resources"] => some .resources
  | ["", "resources", resource, "page"] => if resource.isEmpty then none else some (.page resource)
  | ["", "resources", resource, "reset"] => if resource.isEmpty then none else some (.reset resource)
  | _ => none

/-- The route of a path, behind which one line feed may stand. -/
def ofPath? (path : List Char) : Option Route :=
  ofExactPath? path <|>
    if path.getLast? = some '\n' then ofExactPath? path.dropLast else none

/-- The method of the requests for a route. -/
def method : Route → String
  | .health | .resources => "GET"
  | .page _ | .reset _ => "POST"

/-- Whether requests for the route need the key. -/
def needsKey : Route → Bool
  | .health => false
  | .resources | .page _ | .reset _ => true

end Route

/-- The request as it is answered: without slashes at the end of its path where only so it leads
somewhere. -/
def ApiRequest.directed (r : ApiRequest) : ApiRequest :=
  if (Route.ofPath? r.path).isNone && (Route.ofPath? (dropEndWhile (· == '/') r.path)).isSome then
    r.withoutEndSlashes
  else r

end ODataBrowser
