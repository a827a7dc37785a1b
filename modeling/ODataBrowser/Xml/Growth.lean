import ODataBrowser.Xml.Reference

/-!
# The growth of documents

A few entities that refer to one another can stand for an enormous text. A document is not read where it comes,
with all texts that its entities are replaced by, to more than a hundred times what has been read of it, unless it
is small even so. What an entity comes to is reckoned once, in UTF-8, without replacing anything.
-/

namespace ODataBrowser.Xml

/-! ### Pieces -/

/-- A piece of a text: a tag, a comment, a section, a reference, or a run of other characters. -/
structure Piece where
  /-- The number of bytes. -/
  size : Nat
  /-- The names of the entities that the piece refers to. -/
  references : List (List Char) := []
deriving DecidableEq, Repr

/-- The piece that ends with the given word, where `size` bytes of it come before the text. -/
def pieceThrough (e : Encoding) (word : List Char) (size : Nat) : List Char → Piece × List Char
  | [] => ({ size }, [])
  | c :: rest =>
    if word.isPrefixOf (c :: rest) then
      ({ size := size + e.size word }, (c :: rest).drop word.length)
    else pieceThrough e word (size + e.charSize c) rest

/-- The piece that is a tag, where `piece` comes before the text, and `quote` is the one that a value is in. -/
def tagThrough (e : Encoding) (quote : Option Char) (piece : Piece) : List Char → Piece × List Char
  | [] => (piece, [])
  | c :: rest =>
    let longer := { piece with size := piece.size + e.charSize c }
    match quote with
    | none =>
      if c = '>' then (longer, rest)
      else tagThrough e (if c = '"' ∨ c = '\'' then some c else none) longer rest
    | some q =>
      if c = '&' then
        tagThrough e quote { longer with references := rest.takeWhile isNameChar :: longer.references } rest
      else tagThrough e (if c = q then none else quote) longer rest

/-- Whether the character may stand inside a run. -/
def isRunChar (c : Char) : Bool :=
  c != '<' && c != '&' && c != '\n'

/-- The first piece of a text that is not empty, and what follows it. -/
def firstPiece (e : Encoding) (cs : List Char) : Piece × List Char :=
  match cs with
  | '<' :: '!' :: '-' :: '-' :: rest => pieceThrough e ['-', '-', '>'] (e.size (cs.take 4)) rest
  | '<' :: '!' :: rest => pieceThrough e [']', ']', '>'] (e.size (cs.take 2)) rest
  | '<' :: '?' :: rest => pieceThrough e ['?', '>'] (e.size (cs.take 2)) rest
  | '<' :: rest => tagThrough e none { size := e.charSize '<' } rest
  | '&' :: rest =>
    let (piece, behind) := pieceThrough e [';'] (e.charSize '&') rest
    ({ piece with references := [rest.takeWhile isNameChar] }, behind)
  | '\n' :: rest => ({ size := e.charSize '\n' }, rest)
  | _ => ({ size := e.size (cs.takeWhile isRunChar) }, cs.dropWhile isRunChar)

/-- The pieces of a text in the given encoding. -/
def pieces (e : Encoding) : (fuel : Nat) → List Char → List Piece
  | 0, _ | _, [] => []
  | fuel + 1, cs =>
    let (piece, rest) := firstPiece e cs
    piece :: pieces e fuel rest

/-- The names of the entities that a text refers to. -/
def referencesIn (cs : List Char) : List (List Char) :=
  (pieces .utf8 cs.length cs).flatMap (·.references)

/-! ### Sizes -/

/-- The numbers of bytes that entities come to. -/
abbrev Sizes := List (List Char × Nat)

/-- The number of bytes that an entity comes to, with everything that it refers to, and the sizes that are known
after it was reckoned. -/
def Doctype.reckon (d : Doctype) : (fuel : Nat) → Sizes → List Char → Nat × Sizes
  | 0, sizes, _ => (0, sizes)
  | fuel + 1, sizes, name =>
    if (predefined? name).isSome then (1, sizes)
    else
      match sizes.lookup name, d.entities.lookup name with
      | some n, _ => (n, sizes)
      | none, some (.internal text) =>
        let (n, sizes) := (referencesIn text).foldl (fun (n, sizes) name =>
          let (m, sizes) := d.reckon fuel sizes name
          (n + m, sizes)) (Encoding.utf8.size text, (name, 0) :: sizes)
        (n, (name, n) :: sizes)
      | none, _ => (0, sizes)

/-- The number of bytes that the given entities come to, and the sizes that are known after they were reckoned. -/
def Doctype.reckonAll (d : Doctype) (sizes : Sizes) (names : List (List Char)) : Nat × Sizes :=
  names.foldl (fun (n, sizes) name =>
    let (m, sizes) := d.reckon (d.entities.length + 1) sizes name
    (n + m, sizes)) (0, sizes)

/-! ### Limits -/

/-- Whether a document may come to the given number of bytes more than has been read of it. -/
def mayGrow (read added : Nat) : Bool :=
  read + added < 8388608 || read + added ≤ 100 * read

/-- Takes note of the entities in a default value before the given rest of the document, unless it grows too
much. -/
def Doctype.addValue (d : Doctype) (value rest : List Char) : Option Doctype :=
  match referencesIn value with
  | [] => some d
  | names =>
    let added := d.added + (d.reckonAll [] names).1
    if mayGrow (d.bytes - d.encoding.size rest) added then some { d with added } else none

/-- Whether a document that has grown by `added` bytes when `read` bytes of it have been read does not grow too much
in the given pieces. -/
def Doctype.growsLittle (d : Doctype) (sizes : Sizes) (read added : Nat) : List Piece → Bool
  | [] => true
  | piece :: rest =>
    let read := read + piece.size
    let (n, sizes) := d.reckonAll sizes piece.references
    mayGrow read (added + n) && d.growsLittle sizes read (added + n) rest

/-- Whether a document does not grow too much in its last part. Without entities no document does. -/
def Doctype.allows (d : Doctype) (cs : List Char) : Bool :=
  d.entities.isEmpty || d.growsLittle [] (d.bytes - d.encoding.size cs) d.added (pieces d.encoding cs.length cs)

end ODataBrowser.Xml
