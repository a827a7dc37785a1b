import ODataBrowser.Text.Digit
import ODataBrowser.Xml.Character
import ODataBrowser.Xml.Encoding

/-!
# References and values

Character and entity references, and the values of attributes. In a value every white space character
counts as a space, but a character written as a reference counts as itself, unless an entity holds it.
-/

namespace ODataBrowser.Xml

/-- What a reference stands for. -/
inductive Reference where
  | char (c : Char)
  | entity (name : List Char)
deriving DecidableEq, Repr

/-- The character with the given number, if a document may hold it. -/
def charOfNumber? (n : Nat) : Option Char :=
  if n < 0xD800 ∨ (0xE000 ≤ n ∧ n < 0x110000) then
    if isChar (Char.ofNat n) then some (Char.ofNat n) else none
  else none

/-- Reads the digits of a character reference up to the semicolon. -/
def readNumber (base : Nat) (value? : Char → Option Nat) (cs : List Char) :
    Option (Reference × List Char) := do
  let digits := cs.takeWhile fun c => (value? c).isSome
  match digits, cs.dropWhile fun c => (value? c).isSome with
  | _ :: _, ';' :: rest =>
    -- a number with more digits than any character has may be cut, since it stands for none
    let n := ((digits.dropWhile (· == '0')).take 8).foldl (fun n c => base * n + (value? c).getD 0) 0
    some (.char (← charOfNumber? n), rest)
  | _, _ => none

/-- The value of a decimal digit of ASCII. -/
def asciiDigit? (c : Char) : Option Nat :=
  if c.isDigit then some (c.toNat - 48) else none

/-- Reads a reference behind its ampersand. -/
def readReference : List Char → Option (Reference × List Char)
  | '#' :: 'x' :: rest => readNumber 16 Text.hexDigit? rest
  | '#' :: rest => readNumber 10 asciiDigit? rest
  | cs => do
    let (name, rest) ← readName cs
    match rest with
    | ';' :: rest => some (.entity name, rest)
    | _ => none

/-- The characters that have an entity in every document. -/
def predefined? (name : List Char) : Option Char :=
  [("lt", '<'), ("gt", '>'), ("amp", '&'), ("quot", '"'), ("apos", '\'')].findSome? fun (word, c) =>
    if word.toList = name then some c else none

/-- Reads a text between quotes, of characters that a document may hold. -/
def readQuoted : List Char → Option (List Char × List Char)
  | quote :: rest =>
    if quote = '"' ∨ quote = '\'' then
      let value := rest.takeWhile (· != quote)
      match rest.dropWhile (· != quote) with
      | _ :: behind => if value.all isChar then some (value, behind) else none
      | [] => none
    else none
  | [] => none

/-! ### Entities and attribute declarations -/

/-- What an entity stands for. -/
inductive Entity where
  /-- A text in the document itself. -/
  | internal (text : List Char)
  /-- Something that is not read. -/
  | external
deriving DecidableEq, Repr

/-- The declaration of an attribute of an element. -/
structure AttributeRule where
  element : QName
  name : QName
  /-- Whether the value is plain text; otherwise it is a list of words. -/
  isText : Bool
  /-- The value where the attribute is missing. -/
  default : Option (List Char)

/-- What a document says about itself before its root element. -/
structure Doctype where
  /-- The declared entities, the first declaration of a name first. -/
  entities : List (List Char × Entity) := []
  /-- The declared attributes, in order. -/
  rules : List AttributeRule := []
  /-- Whether there are declarations outside the document. -/
  isPartial : Bool := false
  /-- Whether the document says that it needs no declarations outside it. -/
  isStandalone : Bool := false
  /-- Whether declarations are still taken note of. -/
  isReading : Bool := true
  encoding : Encoding := .utf8
  /-- The number of bytes of the document. -/
  bytes : Nat := 0
  /-- The number of bytes that entities in default values came to. -/
  added : Nat := 0
  /-- How many steps it takes at most to go through all entities. -/
  steps : Nat := 0

/-- Whether every entity has to be declared in the document. -/
def Doctype.needsDeclarations (d : Doctype) : Bool :=
  !d.isPartial || d.isStandalone

/-- Takes note of an entity. -/
def Doctype.addEntity (d : Doctype) (name : List Char) (entity : Entity) : Doctype :=
  let steps := match entity with
    | .internal text => text.length + 1
    | .external => 1
  if d.isReading then { d with entities := d.entities ++ [(name, entity)], steps := d.steps + steps }
  else d

/-! ### Values -/

/-- The value of an attribute with the text `cs`, while the entities in `inside` are being replaced. The value is
built behind what stands before it, and both are held from their ends. -/
def expandValue (d : Doctype) : (fuel : Nat) → (inside : List (List Char)) → (before : List Char) →
    List Char → Option (List Char)
  | 0, _, _, _ => none
  | _, _, before, [] => some before
  | fuel + 1, inside, before, c :: rest =>
    if c = '&' then
      match readReference rest with
      | none => none
      | some (.char c, rest) => expandValue d fuel inside (c :: before) rest
      | some (.entity name, rest) =>
        match predefined? name, d.entities.lookup name with
        | some c, _ => expandValue d fuel inside (c :: before) rest
        | none, some (.internal text) =>
          if inside.contains name then none
          else
            match expandValue d fuel (name :: inside) before text with
            | some before => expandValue d fuel inside before rest
            | none => none
        | none, some .external => none
        | none, none => if d.needsDeclarations then none else expandValue d fuel inside before rest
    else if c = '<' then none
    else expandValue d fuel inside ((if isSpace c then ' ' else c) :: before) rest

/-- Puts a character in front of words that one space stands between. -/
def consWord (c : Char) (words : List Char) : List Char :=
  if c ≠ ' ' then c :: words
  else
    match words with
    | [] | ' ' :: _ => words
    | _ => ' ' :: words

/-- The words of a text, with one space between neighbours. -/
def squeezed (cs : List Char) : List Char :=
  (cs.foldr consWord []).dropWhile (· == ' ')

/-- The value of an attribute as the document means it. -/
def attributeValue (d : Doctype) (isText : Bool) (cs : List Char) : Option (List Char) := do
  let value := (← expandValue d (cs.length + d.steps + 1) [] [] cs).reverse
  return if isText then value else squeezed value

end ODataBrowser.Xml
