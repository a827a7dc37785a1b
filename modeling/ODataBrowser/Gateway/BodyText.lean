import ODataBrowser.Json.Text
import ODataBrowser.Text.Lowercase
import ODataBrowser.Text.Search

/-!
# Bodies of requests

The body of a request is JSON if its content type says so or says nothing. Its encoding is told by the zero
bytes at its start: JSON begins with characters of ASCII, which have such bytes in UTF-16 and UTF-32. A body
in UTF-8 may begin with a byte order mark, and one in code units may hold lone surrogates.
-/

namespace ODataBrowser.BodyText

open Text

/-- An encoding of JSON. -/
inductive Encoding where
  | utf8
  | utf16 (bigEndian : Bool)
  | utf32 (bigEndian : Bool)
deriving DecidableEq, Repr

/-- The encoding of a body with the given bytes. -/
def encodingOf : List UInt8 → Encoding
  | a :: b :: c :: d :: _ =>
    if a = 0 then if b = 0 then .utf32 true else .utf16 true
    else if b = 0 then if c = 0 && d = 0 then .utf32 false else .utf16 false
    else .utf8
  | [a, b] => if a = 0 then .utf16 true else if b = 0 then .utf16 false else .utf8
  | _ => .utf8

/-- The code points of units of 16 bits, in which pairs of surrogates are one character. -/
def points16 : List Nat → List CodePoint
  | [] => []
  | [n] => [.ofUnit n]
  | n :: m :: rest =>
    if isHighSurrogate n && isLowSurrogate m then .char (charOfPair n m) :: points16 rest
    else .ofUnit n :: points16 (m :: rest)

/-- The code points of units of 32 bits, none where one is the number of no code point. -/
def points32? (units : List Nat) : Option (List CodePoint) :=
  if units.all (· < 0x110000) then some (units.map .ofUnit) else none

/-- The text of a body that was sent as `body`, none where its encoding does not fit it. -/
def read? (body : String) : Option (List CodePoint) :=
  let bytes := body.toList.flatMap String.utf8EncodeChar
  match encodingOf bytes with
  | .utf8 =>
    match body.toList with
    | '\uFEFF' :: rest => some (rest.map .char)
    | cs => some (cs.map .char)
  | .utf16 bigEndian => (units16? bigEndian bytes).map points16
  | .utf32 bigEndian => (units32? bigEndian bytes).bind points32?

/-- Whether a content type is that of JSON. -/
def isJsonType (contentType : List Char) : Bool :=
  match splitAtEach '/' (strip (contentType.takeWhile (· != ';'))) with
  | [main, sub] =>
    let sub := lowercase sub
    lowercase main == "application".toList && (sub == "json".toList || "+json".toList.isSuffixOf sub)
  | _ => false

end ODataBrowser.BodyText
