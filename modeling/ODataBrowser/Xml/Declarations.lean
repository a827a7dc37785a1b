import ODataBrowser.Xml.Growth

/-!
# Document type declarations

The part of a document between its XML declaration and its root element. Entities and default values of
attributes that the document itself declares are taken note of; everything else is only checked for its
form. Behind a reference to a parameter entity, which is never read, nothing more is taken note of
unless the document says that it stands alone.
-/

namespace ODataBrowser.Xml

/-! ### Comments and processing instructions -/

/-- The text behind a comment, from behind its opening. -/
def skipComment : List Char → Option (List Char)
  | '-' :: '-' :: '>' :: rest => some rest
  | '-' :: '-' :: _ => none
  | c :: rest => if isChar c then skipComment rest else none
  | [] => none

/-- The text behind the closing of a processing instruction. -/
def skipToClosing : List Char → Option (List Char)
  | '?' :: '>' :: rest => some rest
  | c :: rest => if isChar c then skipToClosing rest else none
  | [] => none

/-- The text behind a processing instruction, from behind its opening. No instruction has the name `xml`
in any case. -/
def skipInstruction (cs : List Char) : Option (List Char) := do
  let (target, rest) ← readName cs
  if target.map Char.toLower = "xml".toList then none
  else
    match rest with
    | '?' :: '>' :: rest => some rest
    | c :: _ => if isSpace c then skipToClosing rest else none
    | [] => none

/-! ### Declarations -/

/-- Whether a literal may be followed by the text. -/
def endsLiteral : List Char → Bool
  | c :: _ => isSpace c || c == '>' || c == '['
  | [] => false

/-- Reads a literal of a declaration. -/
def readLiteral (cs : List Char) : Option (List Char × List Char) := do
  let (value, rest) ← readQuoted cs
  if endsLiteral rest then some (value, rest) else none

/-- Whether a public identifier may hold the character. -/
def isPublicChar (c : Char) : Bool :=
  c.isAlphanum || " \r\n-'()+,./:=?;!*#@$_%".toList.contains c

/-- Reads a public identifier. -/
def readPublic (cs : List Char) : Option (List Char) := do
  let (value, rest) ← readLiteral cs
  if value.all isPublicChar then some rest else none

/-- Reads a reference to something outside the document. -/
def readExternal (cs : List Char) : Option (List Char) :=
  match afterWord "SYSTEM" cs with
  | some rest => do
    let (_, rest) ← readLiteral (← needSpace rest)
    some rest
  | none => do
    let rest ← readPublic (← needSpace (← afterWord "PUBLIC" cs))
    let (_, rest) ← readLiteral (← needSpace rest)
    some rest

/-- The text behind the end of a declaration. -/
def closing (cs : List Char) : Option (List Char) :=
  match skipSpace cs with
  | '>' :: rest => some rest
  | _ => none

/-- The replacement text of an entity with the given literal value, behind what stands before it, where both are
held from their ends: character references are replaced, other references are kept. -/
def replaceCharacters : (fuel : Nat) → (before : List Char) → List Char → Option (List Char)
  | _, before, [] => some before
  | 0, _, _ => none
  | fuel + 1, before, c :: rest =>
    if c = '%' then none
    else if c = '&' then
      match readReference rest with
      | none => none
      | some (.char c, rest) => replaceCharacters fuel (c :: before) rest
      | some (.entity name, rest) => replaceCharacters fuel (';' :: name.reverse ++ '&' :: before) rest
    else replaceCharacters fuel (c :: before) rest

/-- The replacement text of an entity with the given literal value. -/
def replacementText (value : List Char) : Option (List Char) :=
  (replaceCharacters value.length [] value).map List.reverse

/-- Reads what a general entity with the given name stands for, up to the end of its declaration. -/
def readGeneralEntity (d : Doctype) (name : List Char) (cs : List Char) :
    Option (Doctype × List Char) :=
  match readLiteral cs with
  | some (value, rest) => do
    let text ← if d.isReading then replacementText value else some []
    return (d.addEntity name (.internal text), ← closing rest)
  | none => do
    let rest ← readExternal cs
    let rest ← match (needSpace rest).bind (afterWord "NDATA") with
      | some rest => do
        let (_, rest) ← readName (← needSpace rest)
        some rest
      | none => some rest
    return (d.addEntity name .external, ← closing rest)

/-- Reads the declaration of an entity behind its keyword. -/
def readEntity (d : Doctype) (cs : List Char) : Option (Doctype × List Char) := do
  let rest ← needSpace cs
  match rest with
  | '%' :: rest =>
    let (_, rest) ← readName (← needSpace rest)
    let rest ← needSpace rest
    match readLiteral rest with
    | some (value, rest) =>
      let _ ← if d.isReading then replacementText value else some []
      return (d, ← closing rest)
    | none => return (d, ← closing (← readExternal rest))
  | _ =>
    let (name, rest) ← readName rest
    readGeneralEntity d name (← needSpace rest)

/-- The text behind the parts of a list in parentheses, from behind the first part. -/
def readAlternatives (readPart : List Char → Option (List Char)) :
    (fuel : Nat) → List Char → Option (List Char)
  | 0, _ => none
  | fuel + 1, cs =>
    match skipSpace cs with
    | ')' :: rest => some rest
    | '|' :: rest => do readAlternatives readPart fuel (← readPart (skipSpace rest))
    | _ => none

/-- The text behind a word of name characters. -/
def skipToken (cs : List Char) : Option (List Char) :=
  let isTokenChar (c : Char) : Bool := isNameChar c || c == ':'
  if (cs.takeWhile isTokenChar).isEmpty then none else some (cs.dropWhile isTokenChar)

/-- Reads a name in a declaration, where any character of names may follow the colon. -/
def readDeclaredName (cs : List Char) : Option (QName × List Char) := do
  let (first, rest) ← readName cs
  match rest with
  | ':' :: rest =>
    let second := rest.takeWhile isNameChar
    if second.isEmpty then none else some (⟨first, second⟩, rest.dropWhile isNameChar)
  | _ => some (⟨[], first⟩, rest)

/-- The text behind a name. -/
def skipName (cs : List Char) : Option (List Char) :=
  (readDeclaredName cs).map (·.2)

/-- The text behind a list of words in parentheses. -/
def skipList (fuel : Nat) (readPart : List Char → Option (List Char)) (cs : List Char) :
    Option (List Char) :=
  match cs with
  | '(' :: rest => do readAlternatives readPart fuel (← readPart (skipSpace rest))
  | _ => none

/-- Reads the type of an attribute: whether its value is plain text. -/
def readAttributeType (fuel : Nat) (cs : List Char) : Option (Bool × List Char) :=
  match cs with
  | '(' :: _ => (skipList fuel skipToken cs).map fun rest => (false, rest)
  | _ => do
    let (word, rest) ← readName cs
    if word = "CDATA".toList then some (true, rest)
    else if word = "NOTATION".toList then
      let skipNotationName (cs : List Char) : Option (List Char) := (readName cs).map (·.2)
      (skipList fuel skipNotationName (← needSpace rest)).map fun rest => (false, rest)
    else if word ∈ ["ID", "IDREF", "IDREFS", "ENTITY", "ENTITIES", "NMTOKEN", "NMTOKENS"].map
        String.toList then
      some (false, rest)
    else none

/-- The value that a document means by a default, once its growth has been taken note of. Where declarations are
no longer taken note of, it is not even looked at. -/
def defaultValue (d : Doctype) (isText : Bool) (value rest : List Char) :
    Option (Doctype × List Char) :=
  if d.isReading then do
    let d ← d.addValue value rest
    return (d, ← attributeValue d isText value)
  else some (d, [])

/-- Reads the default of an attribute: its value, if it has one. -/
def readDefault (d : Doctype) (isText : Bool) (cs : List Char) :
    Option (Doctype × Option (List Char) × List Char) :=
  match afterWord "#REQUIRED" cs, afterWord "#IMPLIED" cs with
  | some rest, _ => some (d, none, rest)
  | _, some rest => some (d, none, rest)
  | none, none => do
    let start ← match afterWord "#FIXED" cs with
      | some rest => needSpace rest
      | none => some cs
    let (written, rest) ← readLiteral start
    let (d, value) ← defaultValue d isText written rest
    return (d, some value, rest)

/-- Takes note of an attribute. A default is taken note of only for an attribute without an earlier
rule. -/
def Doctype.addRule (d : Doctype) (rule : AttributeRule) : Doctype :=
  let isKnown := d.rules.any fun r => r.element = rule.element && r.name = rule.name
  if !d.isReading || (isKnown && rule.default.isSome) then d
  else { d with rules := d.rules ++ [rule] }

/-- Reads the attributes of an element up to the end of their declaration. -/
def readRules (element : QName) : (fuel : Nat) → Doctype → List Char → Option (Doctype × List Char)
  | 0, _, _ => none
  | fuel + 1, d, cs =>
    match skipSpace cs with
    | '>' :: rest => some (d, rest)
    | _ => do
      let (name, rest) ← readDeclaredName (← needSpace cs)
      let (isText, rest) ← readAttributeType fuel (← needSpace rest)
      let (d, default, rest) ← readDefault d isText (← needSpace rest)
      readRules element fuel (d.addRule ⟨element, name, isText, default⟩) rest

/-- The text behind a mark of repetition. -/
def skipRepetition : List Char → List Char
  | c :: rest => if c = '?' ∨ c = '*' ∨ c = '+' then rest else c :: rest
  | [] => []

mutual

/-- The text behind a part of a content model. -/
def skipPart : (fuel : Nat) → List Char → Option (List Char)
  | 0, _ => none
  | fuel + 1, cs =>
    match cs with
    | '(' :: rest => skipGroup fuel none rest
    | _ => (skipName cs).map skipRepetition

/-- The text behind a group of a content model, from behind its opening or one of its separators. All
separators of a group are the same. -/
def skipGroup : (fuel : Nat) → (separator : Option Char) → List Char → Option (List Char)
  | 0, _, _ => none
  | fuel + 1, separator, cs => do
    let rest ← skipPart fuel (skipSpace cs)
    match skipSpace rest with
    | ')' :: rest => some (skipRepetition rest)
    | c :: rest =>
      if (c = '|' ∨ c = ',') ∧ separator.getD c = c then skipGroup fuel (some c) rest else none
    | [] => none

end

/-- The text behind a content model. -/
def skipModel (fuel : Nat) (cs : List Char) : Option (List Char) :=
  match cs with
  | '(' :: rest =>
    match afterWord "#PCDATA" (skipSpace rest) with
    | some behind =>
      match skipSpace behind with
      | ')' :: '*' :: rest => some rest
      | ')' :: rest => some rest
      | rest => do
        match ← readAlternatives skipName fuel rest with
        | '*' :: rest => some rest
        | _ => none
    | none => skipGroup fuel none rest
  | _ => do
    let (word, rest) ← readName cs
    if word = "EMPTY".toList ∨ word = "ANY".toList then some rest else none

/-- Reads the declaration of an element behind its keyword. -/
def skipElementRule (fuel : Nat) (cs : List Char) : Option (List Char) := do
  let (_, rest) ← readDeclaredName (← needSpace cs)
  closing (← skipModel fuel (← needSpace rest))

/-- Reads the declaration of a notation behind its keyword. -/
def skipNotation (cs : List Char) : Option (List Char) := do
  let (_, rest) ← readName (← needSpace cs)
  let rest ← needSpace rest
  match (readExternal rest).bind closing with
  | some rest => some rest
  | none => closing (← readPublic (← needSpace (← afterWord "PUBLIC" rest)))

/-- Reads one declaration, comment or instruction behind `<`. -/
def readDeclaration (fuel : Nat) (d : Doctype) (cs : List Char) : Option (Doctype × List Char) :=
  match cs with
  | '?' :: rest => (skipInstruction rest).map fun rest => (d, rest)
  | '!' :: '-' :: '-' :: rest => (skipComment rest).map fun rest => (d, rest)
  | '!' :: rest =>
    match afterWord "ENTITY" rest, afterWord "ATTLIST" rest, afterWord "ELEMENT" rest,
        afterWord "NOTATION" rest with
    | some rest, _, _, _ => readEntity d rest
    | _, some rest, _, _ => do
      let (element, rest) ← readDeclaredName (← needSpace rest)
      readRules element fuel d rest
    | _, _, some rest, _ => (skipElementRule fuel rest).map fun rest => (d, rest)
    | _, _, _, some rest => (skipNotation rest).map fun rest => (d, rest)
    | none, none, none, none => none
  | _ => none

/-- Reads the declarations inside a document up to the closing bracket. Fuel of twice the length of the text is also
enough for the parts of every declaration. -/
def readSubset : (fuel : Nat) → Doctype → List Char → Option (Doctype × List Char)
  | 0, _, _ => none
  | fuel + 1, d, cs =>
    match skipSpace cs with
    | ']' :: rest => some (d, rest)
    | '%' :: rest => do
      let (_, rest) ← readName rest
      match rest with
      | ';' :: rest =>
        readSubset fuel { d with isPartial := true, isReading := d.isReading && d.isStandalone } rest
      | _ => none
    | '<' :: rest => do
      let (d, rest) ← readDeclaration fuel d rest
      readSubset fuel d rest
    | _ => none

/-- Reads a document type declaration behind its keyword. -/
def readDoctype (d : Doctype) (cs : List Char) : Option (Doctype × List Char) := do
  let (_, rest) ← readDeclaredName (← needSpace cs)
  let (d, rest) ←
    match (needSpace rest).bind readExternal with
    | some rest => some ({ d with isPartial := true }, rest)
    | none => some (d, rest)
  match skipSpace rest with
  | '[' :: rest =>
    let (d, rest) ← readSubset (2 * rest.length + 2) d rest
    return (d, ← closing rest)
  | rest => return (d, ← closing rest)

/-! ### The XML declaration -/

/-- Whether the value of a part of an XML declaration may hold the character. -/
def isDeclarationChar (c : Char) : Bool :=
  c.isAlphanum || c == '.' || c == '-' || c == '_'

/-- Reads a part of an XML declaration: white space, the given name, and its value. -/
def readPseudo (name : String) (cs : List Char) : Option (List Char × List Char) := do
  let rest ← afterWord name (← needSpace cs)
  match skipSpace rest with
  | '=' :: rest =>
    let (value, rest) ← readQuoted (skipSpace rest)
    if value.all isDeclarationChar then some (value, rest) else none
  | _ => none

/-- Reads an XML declaration behind its opening: whether the document stands alone. The version and the
encoding may be any words. -/
def readXmlDeclaration (cs : List Char) : Option (Bool × List Char) := do
  let (_, rest) ← readPseudo "version" cs
  let (encoding, rest) := (readPseudo "encoding" rest).getD (['x'], rest)
  if !(encoding.headD ' ').isAlpha then none
  else
    let (standalone, rest) := (readPseudo "standalone" rest).getD ("no".toList, rest)
    if standalone ≠ "yes".toList ∧ standalone ≠ "no".toList then none
    else
      match skipSpace rest with
      | '?' :: '>' :: rest => some (standalone = "yes".toList, rest)
      | _ => none

end ODataBrowser.Xml
