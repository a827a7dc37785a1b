import ODataBrowser.Text.Blank
import ODataBrowser.Value.Basic

/-!
# Resources

A service lists what it offers: sets and types of entities, and functions. Each of these resources has
a name, a kind and a location.
-/

namespace ODataBrowser

/-- What a service says a resource is. -/
inductive ResourceKind where
  | entitySet
  | entityType
  | functionImport
  /-- The service does not say, or says something else. -/
  | resource
deriving DecidableEq, Repr

namespace ResourceKind

/-- All kinds. -/
def all : List ResourceKind := [.entitySet, .entityType, .functionImport, .resource]

/-- The name of a kind. -/
def name : ResourceKind → String
  | .entitySet => "EntitySet"
  | .entityType => "EntityType"
  | .functionImport => "FunctionImport"
  | .resource => "Resource"

/-- The kind with exactly the given name. -/
def ofName? (s : String) : Option ResourceKind :=
  all.find? (·.name == s)

/-- Reads a kind: all but the exact name of one means a plain resource. -/
def parse : Value → ResourceKind
  | .text s => (ofName? s).getD .resource
  | _ => .resource

end ResourceKind

/-- Something that a service offers. -/
structure Resource where
  name : JsonText
  kind : ResourceKind
  url : JsonText
deriving DecidableEq, Repr

/-- The location of a path below a base address, with exactly one slash between them. -/
def joinUrl (base path : List Char) : List Char :=
  Text.dropEndWhile (· == '/') base ++ '/' :: path.dropWhile (· == '/')

/-- The location of a name below a base address. -/
def resourceUrl (base : String) : JsonText → JsonText
  | .string s => .ofChars (joinUrl base.toList s.toList)
  | .broken before first after =>
    .behind (joinUrl base.toList []) (.broken (before.dropWhile (· == '/')) first after)

/-- The resource with the given name and kind at a path below the base address. -/
def Resource.below (base : String) (name : List Char) (kind : ResourceKind) (path : List Char) : Resource :=
  ⟨.ofChars name, kind, .ofChars (joinUrl base.toList path)⟩

end ODataBrowser
