import ODataBrowser.Resource.Ordering
import ODataBrowser.Xml.Element
import ODataBrowser.Xml.Reader

/-!
# Metadata documents

A metadata document declares entity sets, entity types and function imports at any depth. They are
listed in this order of kinds; an entity type is left out where an entity set, or an entity type before
it, has its name.
-/

namespace ODataBrowser.Metadata

open Text Xml

/-- The name that an element declares, without white space around it, none where it is empty. -/
def declaredName? (node : Node) : Option String :=
  let name := strip (node.attr "Name")
  if name.isEmpty then none else some (String.ofList name)

/-- The names that the elements of the given local name declare, in document order. -/
def declaredNames (word : String) (root : Node) : List String :=
  (root.elements.filter (·.isNamed word)).filterMap declaredName?

/-- The names that are neither among those seen nor repeated. -/
def newNames (seen : List String) : List String → List String
  | [] => []
  | name :: rest =>
    if name ∈ seen then newNames seen rest else name :: newNames (name :: seen) rest

/-- The declared names with their kinds. -/
def declarations (root : Node) : List (String × ResourceKind) :=
  let sets := declaredNames "EntitySet" root
  sets.map (·, .entitySet) ++
    (newNames sets (declaredNames "EntityType" root)).map (·, .entityType) ++
    (declaredNames "FunctionImport" root).map (·, .functionImport)

/-- The names that a document declares, with their kinds. A document that is missing or not well-formed
declares nothing. -/
def names (document : Option String) : List (String × ResourceKind) :=
  ((document.bind Xml.read?).map declarations).getD []

/-- The resources that a document declares, in order. -/
def resources (document : Option String) (base : String) : List Resource :=
  sortResources ((names document).map fun (name, kind) => .below base name.toList kind name.toList)

end ODataBrowser.Metadata
