import ODataBrowser.Xml.Declarations
import ODataBrowser.Xml.Element

/-!
# Reading XML

`Xml.read?` reads a document that is well-formed and whose prefixes are all bound, and gives its root
element. A document that is not is not read at all.
-/

namespace ODataBrowser.Xml

/-! ### Namespaces -/

/-- The namespace of the prefix `xml`. -/
def xmlSpace : List Char := "http://www.w3.org/XML/1998/namespace".toList

/-- The namespace of the prefix `xmlns`, which nothing may be bound to. -/
def xmlnsSpace : List Char := "http://www.w3.org/2000/xmlns/".toList

/-- The prefix of namespace declarations. -/
def xmlns : List Char := "xmlns".toList

/-- The bound prefixes with their namespaces, the innermost binding first. The empty prefix is that of
names without one. -/
abbrev Scope := List (List Char × List Char)

/-- The scope of a document: only `xml` is bound. -/
def Scope.initial : Scope := [("xml".toList, xmlSpace)]

/-- Binds a prefix, the empty one included, if it may be bound to the namespace. -/
def Scope.bind? (scope : Scope) (word space : List Char) : Option Scope :=
  if word = xmlns then none
  else if (word = "xml".toList) ≠ (space = xmlSpace) then none
  else if space = xmlnsSpace then none
  else if word ≠ [] ∧ space = [] then none
  else if space.contains '\x7d' then none
  else some ((word, space) :: scope)

/-- The prefix that an attribute binds, if it declares a namespace. -/
def boundPrefix? (name : QName) : Option (List Char) :=
  if name.space = xmlns then some name.base
  else if name.space = [] ∧ name.base = xmlns then some []
  else none

/-- The scope inside an element with the given attributes. -/
def Scope.extend? (scope : Scope) : List (QName × List Char) → Option Scope
  | [] => some scope
  | (name, value) :: rest =>
    match boundPrefix? name with
    | some word => do (← scope.bind? word value).extend? rest
    | none => scope.extend? rest

/-- The expanded name of an element. -/
def Scope.elementName? (scope : Scope) (name : QName) : Option Name :=
  match scope.lookup name.space with
  | some space => some ⟨space, name.base⟩
  | none => if name.space = [] then some ⟨[], name.base⟩ else none

/-- The expanded names and the values of the attributes that declare no namespace. A name without a
prefix is in no namespace. -/
def Scope.attributes? (scope : Scope) :
    List (QName × List Char) → Option (List (Name × List Char))
  | [] => some []
  | (name, value) :: rest =>
    if (boundPrefix? name).isSome then scope.attributes? rest
    else do
      let expanded ← if name.space = [] then some ⟨[], name.base⟩ else scope.elementName? name
      let others ← scope.attributes? rest
      if others.any (·.1 = expanded) then none else return (expanded, value) :: others

/-! ### Tags -/

/-- Reads the attributes of a tag as written, up to its end; the flag says whether the element is
empty. -/
def readAttributes : (fuel : Nat) → List Char → Option (List (QName × List Char) × Bool × List Char)
  | 0, _ => none
  | fuel + 1, cs =>
    match skipSpace cs with
    | '>' :: rest => some ([], false, rest)
    | '/' :: '>' :: rest => some ([], true, rest)
    | _ => do
      let (name, rest) ← readQName (← needSpace cs)
      match skipSpace rest with
      | '=' :: rest =>
        let (value, rest) ← readQuoted (skipSpace rest)
        let (others, isEmpty, rest) ← readAttributes fuel rest
        if others.any (·.1 = name) then none else some ((name, value) :: others, isEmpty, rest)
      | _ => none

/-- The values of attributes as the document means them. -/
def attributeValues (d : Doctype) (element : QName) :
    List (QName × List Char) → Option (List (QName × List Char))
  | [] => some []
  | (name, value) :: rest => do
    let rule := d.rules.find? fun r => r.element = element && r.name = name
    let meant ← attributeValue d ((rule.map (·.isText)).getD true) value
    return (name, meant) :: (← attributeValues d element rest)

/-- The attributes that an element has by default beside the given ones. -/
def defaultAttributes (d : Doctype) (element : QName) (given : List (QName × List Char)) :
    List (QName × List Char) :=
  d.rules.filterMap fun r =>
    if r.element = element ∧ ¬ given.any (·.1 = r.name) then
      r.default.map fun value => (r.name, value)
    else none

/-! ### Content -/

/-- Puts a node in front of a content. Texts join. -/
def consNode : Node → List Node → List Node
  | .text cs, .text others :: rest => .text (cs ++ others) :: rest
  | .text [], nodes => nodes
  | node, nodes => node :: nodes

/-- The content that consists of the given nodes, nearest first, in which neighbouring texts are not joined. -/
def contentOf (before : List Node) : List Node :=
  before.foldl (fun nodes node => consNode node nodes) []

/-- Reads a section of plain text behind its opening, where `before` holds what has been read, nearest first. -/
def readSection (before : List Char) : List Char → Option (List Char × List Char)
  | ']' :: ']' :: '>' :: rest => some (before.reverse, rest)
  | c :: rest => if isChar c then readSection (c :: before) rest else none
  | [] => none

/-- Whether the character stands for itself in a text, whatever follows it. -/
def isPlain (c : Char) : Bool :=
  isChar c && c != '<' && c != '&' && c != ']'

mutual

/-- Reads content up to an end tag or the end of the text. `inside` are the names of the entities that
are being replaced, and `before` holds the nodes that have been read, nearest first. -/
def readContent (d : Doctype) : (fuel : Nat) → (inside : List (List Char)) → Scope →
    (before : List Node) → List Char → Option (List Node × List Char)
  | 0, _, _, _, _ => none
  | fuel + 1, inside, scope, before, cs =>
    match cs with
    | [] => some (before, [])
    | '<' :: '/' :: _ => some (before, cs)
    | '<' :: '?' :: rest =>
      match skipInstruction rest with
      | some rest => readContent d fuel inside scope before rest
      | none => none
    | '<' :: '!' :: '-' :: '-' :: rest =>
      match skipComment rest with
      | some rest => readContent d fuel inside scope before rest
      | none => none
    | '<' :: '!' :: rest =>
      match (afterWord "[CDATA[" rest).bind (readSection []) with
      | some (text, rest) => readContent d fuel inside scope (.text text :: before) rest
      | none => none
    | '<' :: rest =>
      match readElement d fuel inside scope rest with
      | some (node, rest) => readContent d fuel inside scope (node :: before) rest
      | none => none
    | '&' :: rest =>
      match readReference rest with
      | some (.char c, rest) => readContent d fuel inside scope (.text [c] :: before) rest
      | some (.entity name, rest) =>
        match predefined? name, d.entities.lookup name with
        | some c, _ => readContent d fuel inside scope (.text [c] :: before) rest
        | none, some (.internal text) =>
          if inside.contains name then none
          else
            match readContent d fuel (name :: inside) scope before text with
            | some (before, []) => readContent d fuel inside scope before rest
            | _ => none
        | _, _ => none
      | none => none
    | ']' :: ']' :: '>' :: _ => none
    | ']' :: rest => readContent d fuel inside scope (.text [']'] :: before) rest
    | c :: _ =>
      if isPlain c then
        readContent d fuel inside scope (.text (cs.takeWhile isPlain) :: before) (cs.dropWhile isPlain)
      else none

/-- Reads an element behind the opening of its tag. -/
def readElement (d : Doctype) : (fuel : Nat) → (inside : List (List Char)) → Scope → List Char →
    Option (Node × List Char)
  | 0, _, _, _ => none
  | fuel + 1, inside, scope, cs => do
    let (name, rest) ← readQName cs
    let (written, isEmpty, rest) ← readAttributes fuel rest
    let given ← attributeValues d name written
    let all := given ++ defaultAttributes d name given
    let scope ← scope.extend? all
    let expanded ← scope.elementName? name
    let attributes ← scope.attributes? all
    if isEmpty then return (.element expanded attributes [], rest)
    else
      let (before, rest) ← readContent d fuel inside scope [] rest
      match rest with
      | '<' :: '/' :: rest =>
        let (endName, rest) ← readQName rest
        if endName = name then return (.element expanded attributes (contentOf before), ← closing rest)
        else none
      | _ => none

end

/-! ### Documents -/

/-- The text behind white space, comments and instructions. -/
def skipMisc : (fuel : Nat) → List Char → Option (List Char)
  | 0, _ => none
  | fuel + 1, cs =>
    match skipSpace cs with
    | '<' :: '?' :: rest => do skipMisc fuel (← skipInstruction rest)
    | '<' :: '!' :: '-' :: '-' :: rest => do skipMisc fuel (← skipComment rest)
    | rest => some rest

/-- Reads what stands before the root element, from behind the XML declaration. -/
def readProlog (d : Doctype) (cs : List Char) : Option (Doctype × List Char) := do
  let rest ← skipMisc (cs.length + 1) cs
  match afterWord "<!DOCTYPE" rest with
  | some rest =>
    let (d, rest) ← readDoctype d rest
    return (d, ← skipMisc (rest.length + 1) rest)
  | none => return (d, rest)

/-- Reads a document that has lost its byte order mark, where `d` is known about it from its bytes. -/
def readDocument (d : Doctype) (cs : List Char) : Option Node := do
  let (isStandalone, rest) ←
    match afterWord "<?xml" cs with
    | some rest => if rest.head?.any isNameChar then some (false, cs) else readXmlDeclaration rest
    | none => some (false, cs)
  let (d, rest) ← readProlog { d with isStandalone } rest
  if !d.allows rest then none
  else
    match rest with
    | '<' :: rest =>
      -- a step takes a character of the text or of an entity, or leads from content to an element
      let (root, rest) ← readElement d (2 * (rest.length + d.steps) + 2) [] .initial rest
      if (← skipMisc (rest.length + 1) rest).isEmpty then some root else none
    | _ => none

/-- The text with every line end as a line feed. -/
def withLineFeeds (cs : List Char) : List Char :=
  let step : Bool × List Char → Char → Bool × List Char := fun (isBehindReturn, before) c =>
    if c = '\n' && isBehindReturn then (false, before)
    else if c = '\r' then (true, '\n' :: before)
    else (false, c :: before)
  (cs.foldl step (false, [])).2.reverse

/-- The text without a byte order mark. -/
def withoutMark : List Char → List Char
  | '\uFEFF' :: rest => rest
  | cs => cs

/-- The root element of a document, none where the text is no document. A byte order mark may stand at
its start. -/
def read? (s : String) : Option Node := do
  let encoding := Encoding.ofText s.toList
  let cs ← encoding.chars? s.toList
  readDocument { encoding, bytes := s.utf8ByteSize } (withoutMark (withLineFeeds cs))

end ODataBrowser.Xml
