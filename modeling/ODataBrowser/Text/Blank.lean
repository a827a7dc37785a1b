import ODataBrowser.Text.CodeTable

/-!
# White space

White space is what separates words in any script: the separators of ASCII with the four
information separators, the next-line character, the no-break space and the spaces and line breaks of
general punctuation. Zero-width characters are not white space.
-/

namespace ODataBrowser.Text

/-- The code points of white space. -/
def blank : CodeSet where
  changes := [
    0x9, 0xE, 0x1C, 0x21, 0x85, 0x86, 0xA0, 0xA1, 0x1680, 0x1681, 0x2000, 0x200B, 0x2028, 0x202A,
    0x202F, 0x2030, 0x205F, 0x2060, 0x3000, 0x3001]

/-- Whether the character is white space. -/
def isBlank (c : Char) : Bool :=
  blank.contains c

/-- Removes the longest suffix whose items all satisfy `p`. -/
def dropEndWhile {α : Type} (p : α → Bool) (cs : List α) : List α :=
  (cs.reverse.dropWhile p).reverse

/-- Removes white space at the front. -/
def stripStart (cs : List Char) : List Char :=
  cs.dropWhile isBlank

/-- Removes white space at both ends. -/
def strip (cs : List Char) : List Char :=
  dropEndWhile isBlank (stripStart cs)

/-- The text without white space at its ends. -/
def stripped (s : String) : String :=
  String.ofList (strip s.toList)

end ODataBrowser.Text
