import ODataBrowser.Envelope
import ODataBrowser.Json.Reader
import ODataBrowser.Resource.Ordering
import ODataBrowser.Text.Search
import ODataBrowser.Xml.Reader

/-!
# Service documents

A service document is a JSON object whose `value` lists the resources, or an Atom document with one
`collection` or `function-import` element per resource. A JSON document that lists nothing is read as
XML too.
-/

namespace ODataBrowser.ServiceDocument

open Text Xml

/-! ### JSON -/

/-- The resource of a JSON entry, none where the entry has no name. -/
def item? (base : String) (item : Value) : Option Resource :=
  let name := item.field "name"
  if name.isPresent then
    let location := (item.field "url").orElse (.textual (resourceUrl base name.asText))
    some ⟨name.asText, .parse (item.field "kind"), location.asText⟩
  else none

/-- The resources of a JSON document, in document order. -/
def ofJson (document : Value) (base : String) : List Resource :=
  ((Envelope.items? (document.field "value")).getD []).filterMap (item? base)

/-! ### Atom -/

/-- The name of a title in the namespace of Atom. -/
def atomTitle : Name := ⟨"http://www.w3.org/2005/Atom".toList, "title".toList⟩

/-- Whether the node is an element with exactly the given name. -/
def hasName (name : Name) : Node → Bool
  | .text _ => false
  | .element n _ _ => n = name

/-- The first text, without white space around it, that is not empty among the elements of the given
kind inside an element. -/
def firstTitle (isTitle : Node → Bool) (node : Node) : List Char :=
  firstNonEmpty ((node.descendants.filter isTitle).map fun title => strip title.leadingText)

/-- The name of a collection: its Atom title, else any title, else its address. -/
def collectionName (node : Node) : List Char :=
  firstNonEmpty [firstTitle (hasName atomTitle) node, firstTitle (·.isNamed "title") node, node.attr "href"]

/-- The resource of a collection, none where it has no name. -/
def collection? (base : String) (node : Node) : Option Resource :=
  let name := collectionName node
  if name.isEmpty then none
  else
    let path := (node.attr "href").dropWhile (· == '/')
    some (.below base name .entitySet (firstNonEmpty [path, name]))

/-- The resource of a function import, none where it has no name. -/
def functionImport? (base : String) (node : Node) : Option Resource :=
  let name := firstNonEmpty [node.attr "name", node.attr "Title"]
  if name.isEmpty then none
  else some (.below base name .functionImport (firstNonEmpty [node.attr "href", name]))

/-- The resource that an element declares, if it declares one. -/
def resource? (base : String) (node : Node) : Option Resource :=
  if node.isNamed "collection" then collection? base node
  else if node.isNamed "function-import" then functionImport? base node
  else none

/-- The resources of an Atom document, in document order. -/
def ofXml (root : Node) (base : String) : List Resource :=
  root.elements.filterMap (resource? base)

/-! ### Either -/

/-- The resources that the text of a document lists, in document order. A JSON value that is nested too
deeply is a fault. -/
def listed (text base : String) : Except Fault (List Resource) := do
  match ((← Json.read? text).map fun document => ofJson document base).getD [] with
  | [] => return ((Xml.read? text).map fun root => ofXml root base).getD []
  | resources => return resources

/-- The resources that a document lists, in order. A document that is missing lists nothing. -/
def resources (document : Option String) (base : String) : Except Fault (List Resource) :=
  match document with
  | some text => (listed text base).map sortResources
  | none => .ok []

end ODataBrowser.ServiceDocument
