import ODataBrowser.Text.Digit
import ODataBrowser.Text.Utf8

/-!
# Components of URLs

In a component of a URL every character but a few stands as the percent escapes of its UTF-8 bytes.
-/

namespace ODataBrowser.Query

/-- Whether the character stands for itself in a component of a URL. -/
def isComponentChar (c : Char) : Bool :=
  c.isAlphanum || "-_.!~*'()".toList.contains c

/-- The upper-case hexadecimal digit of a number below 16. -/
def upperHexDigit (n : Nat) : Char :=
  if n < 10 then Char.ofNat (48 + n) else Char.ofNat (55 + n)

/-- A byte as a percent escape. -/
def percentByte (b : UInt8) : List Char :=
  ['%', upperHexDigit (b.toNat / 16), upperHexDigit (b.toNat % 16)]

/-- A character of a component: itself, or the escapes of its UTF-8 bytes. -/
def percentChar (c : Char) : List Char :=
  if isComponentChar c then [c] else (String.utf8EncodeChar c).flatMap percentByte

/-- A text as a component of a URL. -/
def encodeComponent (cs : List Char) : List Char :=
  cs.flatMap percentChar

/-- The byte of the escape at the start of a text, and the rest. -/
def escape? : List Char → Option (UInt8 × List Char)
  | '%' :: a :: b :: rest => do
    let high ← Text.hexDigit? a
    let low ← Text.hexDigit? b
    return (UInt8.ofNat (16 * high + low), rest)
  | _ => none

/-- The bytes of a text with its escapes decoded; a percent sign without two digits stands for
itself. -/
def decodedBytes : List Char → List UInt8
  | [] => []
  | [c] => String.utf8EncodeChar c
  | [c, d] => String.utf8EncodeChar c ++ String.utf8EncodeChar d
  | c :: a :: b :: rest =>
    match escape? (c :: a :: b :: rest) with
    | some (byte, _) => byte :: decodedBytes rest
    | none => String.utf8EncodeChar c ++ decodedBytes (a :: b :: rest)

/-- The text that a component stands for. -/
def decodeComponent (cs : List Char) : List Char :=
  Text.decodeUtf8 (decodedBytes cs)

end ODataBrowser.Query
