import ODataBrowser.Json.Reader
import ODataBrowser.Service.Exchange
import ODataBrowser.Text.Blank
import ODataBrowser.Value.Conversion
import ODataBrowser.Xml.Reader

/-!
# Messages of error responses

Services say in different ways what went wrong: in the JSON fields `error.message` or `message`, there
as a text or as the `value` of an object, in an XML element `message`, or in a short plain text. Where
they say nothing, the status speaks.
-/

namespace ODataBrowser.ErrorMessage

open Text

/-- The text that a candidate gives: itself or its `value`, if that is a text that is not blank. -/
def candidate? (v : Value) : Option JsonText :=
  let inner := match v with
    | .map _ => v.field "value"
    | _ => v
  match inner with
  | .textual t => if t.strip.isEmpty then none else some t.strip
  | _ => none

/-- The message of a JSON body. -/
def ofJson? (body : Value) : Option JsonText :=
  candidate? ((body.field "error").field "message") <|> candidate? (body.field "message")

/-- The message of an XML body: the text of the first `message` element that is not blank. -/
def ofXml? (body : String) : Option String :=
  if (stripStart body.toList).head? = some '<' then
    (Xml.read? body).bind fun root =>
      (root.elements.filter (·.isNamed "message")).findSome? fun node =>
        let message := strip node.leadingText
        if message.isEmpty then none else some (String.ofList message)
  else none

/-- The plain text of a body, if it is short and no markup. -/
def ofText? (body : String) : Option String :=
  let text := strip body.toList
  if text.isEmpty || 300 < text.length || text.contains '<' then none else some (String.ofList text)

/-- The status with its phrase. -/
def ofStatus (status : Int) (reason : String) : String :=
  stripped ("HTTP " ++ String.ofList (Numeral.ofInt status) ++ " " ++ reason)

/-- The message of an error response. A JSON value that is nested too deeply is a fault. -/
def ofResponse (r : Response) : Except Fault JsonText := do
  let fromJson := (← Json.read? r.body).bind ofJson?
  let fromText := (ofXml? r.body <|> ofText? r.body).getD (ofStatus r.status r.reason)
  return fromJson.getD (.string fromText)

/-- The message of a loosely typed XML body; a body that says nothing has none. -/
def ofXmlValue? (body : Value) : Except Fault (Option String) :=
  body.toTextOrEmpty.map ofXml?

end ODataBrowser.ErrorMessage
