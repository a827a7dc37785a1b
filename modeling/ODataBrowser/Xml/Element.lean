/-!
# XML trees

A document is a tree of elements and texts. Comments and processing instructions leave no trace, so
the texts around them join. Names are expanded: a name holds the address of its namespace in place of a
prefix.
-/

namespace ODataBrowser.Xml

/-- An expanded name: the address of its namespace, empty where it has none, and its local part. -/
structure Name where
  space : List Char
  localPart : List Char
deriving DecidableEq, Repr

/-- A part of a document: a text, or an element with its attributes and its content. -/
inductive Node where
  | text (cs : List Char)
  | element (name : Name) (attributes : List (Name × List Char)) (content : List Node)

namespace Node

/-- The local part of the name of an element. -/
def localName : Node → List Char
  | .text _ => []
  | .element name _ _ => name.localPart

/-- Whether the node is an element with the given local name. -/
def isNamed (word : String) (node : Node) : Bool :=
  node.localName == word.toList

/-- The value of the attribute with the given name outside all namespaces. -/
def attr? (word : String) : Node → Option (List Char)
  | .text _ => none
  | .element _ attributes _ => attributes.lookup ⟨[], word.toList⟩

/-- The value of an attribute, empty where it is missing. -/
def attr (word : String) (node : Node) : List Char :=
  (node.attr? word).getD []

/-- The text at the start of a list of nodes, up to the first element. -/
def textOf : List Node → List Char
  | .text cs :: rest => cs ++ textOf rest
  | _ => []

/-- The text of an element before its first child. -/
def leadingText : Node → List Char
  | .text cs => cs
  | .element _ _ content => textOf content

mutual

/-- The element and all elements inside it, in document order, in front of `others`. -/
def elementsBefore (others : List Node) : Node → List Node
  | .text _ => others
  | .element name attributes content =>
    .element name attributes content :: elementsOfBefore others content

/-- All elements in a list of nodes, in document order, in front of `others`. -/
def elementsOfBefore (others : List Node) : List Node → List Node
  | [] => others
  | node :: rest => node.elementsBefore (elementsOfBefore others rest)

end

/-- The element and all elements inside it, in document order. -/
def elements (node : Node) : List Node :=
  node.elementsBefore []

/-- All elements inside the element, in document order. -/
def descendants : Node → List Node
  | .text _ => []
  | .element _ _ content => elementsOfBefore [] content

end Node

end ODataBrowser.Xml
