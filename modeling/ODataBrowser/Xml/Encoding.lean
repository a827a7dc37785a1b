import ODataBrowser.Text.Utf16

/-!
# The encoding of documents

A document comes as a text, but what counts are the bytes that the text is sent as. A zero among the first two of
them says that they are in UTF-16.
-/

namespace ODataBrowser.Xml

open Text

/-- An encoding of documents. -/
inductive Encoding where
  | utf8
  | utf16 (bigEndian : Bool)
deriving DecidableEq, Repr

namespace Encoding

/-- The encoding of the document that comes as the given text. -/
def ofText : List Char → Encoding
  | '\x00' :: _ => .utf16 true
  | c :: '\x00' :: _ => if c.toNat < 128 then .utf16 false else .utf8
  | _ => .utf8

/-- The number of bytes of a character. -/
def charSize : Encoding → Char → Nat
  | .utf8, c => c.utf8Size
  | .utf16 _, c => if c.toNat < 0x10000 then 2 else 4

/-- The number of bytes of a text. -/
def size (e : Encoding) (cs : List Char) : Nat :=
  cs.foldl (fun n c => n + e.charSize c) 0

/-- The characters of code units behind the given characters, nearest first. A high surrogate makes up a pair with
any unit, and a low one stands only behind it. -/
def charsOfUnits? (before : List Char) : List Nat → Option (List Char)
  | [] => some before.reverse
  | [n] => if isHighSurrogate n || isLowSurrogate n then none else some (Char.ofNat n :: before).reverse
  | n :: m :: rest =>
    if isHighSurrogate n then charsOfUnits? (charOfPair n m :: before) rest
    else if isLowSurrogate n then none
    else charsOfUnits? (Char.ofNat n :: before) (m :: rest)

/-- The characters of a document in the encoding that comes as the given text. -/
def chars? : Encoding → List Char → Option (List Char)
  | .utf8, cs => some cs
  | .utf16 bigEndian, cs =>
    (units16? bigEndian (cs.flatMap String.utf8EncodeChar)).bind (charsOfUnits? [])

end Encoding

example : (Encoding.utf16 false).chars? ['<', '\x00', 'é'] = some ['<', '\uA9C3'] := by decide

end ODataBrowser.Xml
