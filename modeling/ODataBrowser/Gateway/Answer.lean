import ODataBrowser.Gateway.Objection
import ODataBrowser.Json.Reader
import ODataBrowser.Pager.Basic

/-!
# Answers to users

An answer is JSON, a list of the invalid parts of the request, or a plain text. Not every value can be sent as
JSON: numbers that are not finite are sent as null, and a name with a lone surrogate with replacement characters
in its place, but neither a text with a lone surrogate nor a value that is nested too deeply can be sent at all.
-/

namespace ODataBrowser

/-! ### What can be sent -/

/-- A name as it is sent: a lone surrogate takes three bytes, each of which is replaced. -/
def sentName (t : JsonText) : JsonText :=
  .ofChars (t.points.flatMap fun
    | .char c => [c]
    | .lone _ => List.replicate 3 '\uFFFD')

/-- A key as it is sent. -/
def sentKey (key : Scalar) : JsonText :=
  sentName key.asText

namespace Value

mutual

/-- The value as it is sent, with room for the given number of values inside each other; none where it cannot
be sent. -/
def sent? : (room : Nat) → Value → Option Value
  | 0, _ => none
  | _ + 1, .scalar (.textual t) => if t.isString then some (.textual t) else none
  | _ + 1, .scalar s => some (if (Value.scalar s).isUnbounded then .null else .scalar s)
  | room + 1, .list items => (sentItems? room items).map .list
  | room + 1, .map entries => (sentEntries? room [] entries).map .map

/-- The items of a list as they are sent. -/
def sentItems? : (room : Nat) → List Value → Option (List Value)
  | _, [] => some []
  | room, v :: rest => do
    let item ← sent? room v
    return item :: (← sentItems? room rest)

/-- The entries of a map as they are sent, behind the given ones. -/
def sentEntries? : (room : Nat) → List (Scalar × Value) → List (Scalar × Value) →
    Option (List (Scalar × Value))
  | _, entries, [] => some entries
  | room, entries, (key, v) :: rest => do
    let item ← sent? room v
    sentEntries? room (Json.putField entries (sentKey key) item) rest

end

/-- How many values a row may hold inside each other, itself included. -/
def sentDepth : Nat := 254

end Value

/-- Texts as they are sent. -/
def sentTexts? (texts : List JsonText) : Option Value :=
  (texts.mapM fun (t : JsonText) => t.string?.map Value.text).map .list

/-- The types of columns as they are sent. -/
def sentTypes (types : ColumnTypes) : Value :=
  .map (types.foldl (fun entries (column, type) =>
    Json.putField entries (sentKey column) (.text type.name)) [])

/-- A resource as it is sent. -/
def Resource.sent? (r : Resource) : Option Value := do
  let name ← r.name.string?
  let url ← r.url.string?
  return .ofFields [("name", .text name), ("kind", .text r.kind.name), ("url", .text url)]

/-- A page as it is sent. -/
def PageResult.sent? (r : PageResult) : Option Value := do
  let resource ← r.resource.string?
  let columns ← sentTexts? r.columns
  let rows ← Value.sentItems? Value.sentDepth r.rows
  return .ofFields [
    ("resource", .text resource),
    ("skip", .int r.skip),
    ("page_size", .int r.size),
    ("total_records", .int r.total),
    ("count_strategy", .text r.strategy.name),
    ("exhausted", .bool r.exhausted),
    ("columns", columns),
    ("column_types", sentTypes r.types),
    ("rows", .list rows)]

/-! ### Answers -/

/-- What an answer holds. -/
inductive ApiContent where
  | json (v : Value)
  /-- The names of the invalid parts of the request. -/
  | invalid (fields : List String)
  | text (s : String)

/-- An answer to a user. -/
structure ApiAnswer where
  status : Nat
  content : ApiContent

namespace ApiAnswer

/-- An answer that says in one text what is wrong. -/
def detail (status : Nat) (message : String) : ApiAnswer :=
  ⟨status, .json (.ofFields [("detail", .text message)])⟩

/-- The answer as it arrives: without its content where only its head was asked for. -/
def arriving (a : ApiAnswer) (method : String) : ApiAnswer :=
  if method = "HEAD" then { a with content := .text "" } else a

/-- The answer where nothing is. -/
def notFound : ApiAnswer := detail 404 "Not Found"

/-- The answer to another method than that of the route. -/
def methodNotAllowed : ApiAnswer := detail 405 "Method Not Allowed"

/-- The answer to a wrong key. -/
def wrongKey : ApiAnswer := detail 401 "Invalid API key"

/-- The answer to a body that cannot be read for another reason than that it is no JSON. -/
def unreadableBody : ApiAnswer := detail 400 "There was an error parsing the body"

/-- The answer after a fault that a user cannot know about. -/
def internalError : ApiAnswer := ⟨500, .text "Internal Server Error"⟩

/-- The answer to a request with invalid parts, if it can be sent where some values can be quoted. -/
def unprocessable (canQuote : Value → Bool) (objections : List Objection) : ApiAnswer :=
  if objections.all (·.isSendable canQuote) then ⟨422, .invalid (objections.map (·.part))⟩ else internalError

/-- The answer that holds a value, if it can be sent. -/
def ofSent? : Option Value → ApiAnswer
  | some v => ⟨200, .json v⟩
  | none => internalError

/-- The answer after the service failed, with a message that may have a lone surrogate. -/
def badGateway (message : Value) (fields : List (String × Value)) : ApiAnswer :=
  match message.sent? Value.sentDepth with
  | some message => ⟨502, .json (.ofFields [("detail", .ofFields (("message", message) :: fields))])⟩
  | none => internalError

/-- The answer that the gateway is up. -/
def healthy : ApiAnswer :=
  ⟨200, .json (.ofFields [("ok", .bool true), ("version", .text "0.1.0")])⟩

end ApiAnswer

end ODataBrowser
