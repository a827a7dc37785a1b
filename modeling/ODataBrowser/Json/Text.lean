import ODataBrowser.Text.Blank
import ODataBrowser.Text.Utf16

/-!
# Texts of JSON

JSON can write a surrogate without its partner. A text that holds such a lone surrogate is no string: it has
no form in UTF-8, so it can neither be sent nor be part of an address. `JsonText` is a string or such a broken
text, and `JsonText.ofPoints` gives each sequence of code points its one form.
-/

namespace ODataBrowser

/-- A surrogate, counted from the first one, `U+D800`. -/
abbrev Surrogate := Fin 2048

/-- A code point of a text: a character, or a surrogate without its partner. -/
inductive CodePoint where
  | char (c : Char)
  | lone (s : Surrogate)
deriving DecidableEq, Repr

namespace CodePoint

/-- The number of a code point. -/
def code : CodePoint → Nat
  | .char c => c.toNat
  | .lone s => 0xD800 + s.val

/-- The code point of a code unit on its own, which is at most that of the last character. -/
def ofUnit (n : Nat) : CodePoint :=
  if Text.isHighSurrogate n || Text.isLowSurrogate n then .lone (Fin.ofNat 2048 (n - 0xD800))
  else .char (Char.ofNat n)

/-- The character of a code point, none for a lone surrogate. -/
def char? : CodePoint → Option Char
  | .char c => some c
  | .lone _ => none

/-- Whether the code point is a character that satisfies `p`. -/
def isCharOf (p : Char → Bool) : CodePoint → Bool
  | .char c => p c
  | .lone _ => false

/-- The character that stands for the code point where only characters can be shown. -/
def shown : CodePoint → Char
  | .char c => c
  | .lone _ => '\uFFFD'

end CodePoint

/-- A text: a string, or a text that holds a lone surrogate. -/
inductive JsonText where
  | string (s : String)
  /-- The characters before the first lone surrogate, that surrogate, and what follows it. -/
  | broken (before : List Char) (first : Surrogate) (after : List CodePoint)
deriving DecidableEq, Inhabited, Repr

instance : Coe String JsonText := ⟨.string⟩

namespace JsonText

/-- The text of the given code points behind the given characters, nearest first. -/
def ofPointsBehind (before : List Char) : List CodePoint → JsonText
  | [] => .string (String.ofList before.reverse)
  | .char c :: rest => ofPointsBehind (c :: before) rest
  | .lone s :: rest => .broken before.reverse s rest

/-- The text of the given code points. -/
def ofPoints (points : List CodePoint) : JsonText :=
  ofPointsBehind [] points

/-- The text of the given characters. -/
def ofChars (cs : List Char) : JsonText :=
  .string (String.ofList cs)

/-- The code points of a text. -/
def points : JsonText → List CodePoint
  | .string s => s.toList.map .char
  | .broken before first after => before.map .char ++ .lone first :: after

/-- The string that a text is, if it is one. -/
def string? : JsonText → Option String
  | .string s => some s
  | .broken .. => none

/-- Whether the text is a string. -/
def isString (t : JsonText) : Bool :=
  t.string?.isSome

/-- The characters of a text, with a replacement character for each lone surrogate. -/
def shown : JsonText → List Char
  | .string s => s.toList
  | t => t.points.map CodePoint.shown

/-- Whether the text is empty. -/
def isEmpty : JsonText → Bool
  | .string s => s.isEmpty
  | .broken .. => false

/-- The text without white space at its ends. -/
def strip : JsonText → JsonText
  | .string s => .string (Text.stripped s)
  | t => .ofPoints (Text.dropEndWhile (CodePoint.isCharOf Text.isBlank)
      (t.points.dropWhile (CodePoint.isCharOf Text.isBlank)))

/-- The texts one behind the other. -/
def joined (texts : List JsonText) : JsonText :=
  .ofPoints (texts.flatMap points)

/-- A text followed by another one. -/
def append : JsonText → JsonText → JsonText
  | .string s, .string t => .string (s ++ t)
  | .string s, .broken before first after => .broken (s.toList ++ before) first after
  | .broken before first after, t => .broken before first (after ++ t.points)

instance : Append JsonText := ⟨append⟩

/-- The text behind the given characters. -/
def behind (cs : List Char) : JsonText → JsonText
  | .string s => .ofChars (cs ++ s.toList)
  | .broken before first after => .broken (cs ++ before) first after

/-- The text between the given characters. -/
def between (front : List Char) (back : List Char) : JsonText → JsonText
  | .string s => .ofChars (front ++ s.toList ++ back)
  | .broken before first after => .broken (front ++ before) first (after ++ back.map .char)

/-- Applies a function to the characters between lone surrogates, where `run` holds the last characters,
nearest first. -/
def mapRunsFrom (f : List Char → List Char) (run : List Char) : List CodePoint → List CodePoint
  | [] => (f run.reverse).map .char
  | .char c :: rest => mapRunsFrom f (c :: run) rest
  | .lone s :: rest => (f run.reverse).map .char ++ .lone s :: mapRunsFrom f [] rest

/-- Applies a function on characters to a text, separately before, between and behind its lone surrogates. -/
def mapRuns (f : List Char → List Char) : JsonText → JsonText
  | .string s => .ofChars (f s.toList)
  | t => .ofPoints (mapRunsFrom f [] t.points)

/-- The numbers of the code points, by which texts are ordered. -/
def codes (t : JsonText) : List Nat :=
  t.points.map CodePoint.code

end JsonText

end ODataBrowser
