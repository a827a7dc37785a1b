import ODataBrowser.Text.Digit
import ODataBrowser.Text.Printable

/-!
# Quoted text

A quoted text stands between apostrophes, or between quotation marks when it holds an apostrophe and
no quotation mark. Backslashes, the enclosing quote and characters that are not printable are written
as escapes.
-/

namespace ODataBrowser.Text

/-- The escape of a character by its code point. -/
def codeEscape (c : Char) : List Char :=
  let n := c.toNat
  if n < 0x100 then '\\' :: 'x' :: hexText 2 n
  else if n < 0x10000 then '\\' :: 'u' :: hexText 4 n
  else '\\' :: 'U' :: hexText 8 n

/-- The quote around a text. -/
def quoteFor (cs : List Char) : Char :=
  if cs.contains '\'' && !cs.contains '"' then '"' else '\''

/-- A character inside the given quotes. -/
def quotedChar (quote c : Char) : List Char :=
  if c = quote ∨ c = '\\' then ['\\', c]
  else if c = '\t' then ['\\', 't']
  else if c = '\n' then ['\\', 'n']
  else if c = '\r' then ['\\', 'r']
  else if isPrintable c then [c]
  else codeEscape c

/-- The quoted form of a text. -/
def quoted (cs : List Char) : List Char :=
  let quote := quoteFor cs
  quote :: cs.flatMap (quotedChar quote) ++ [quote]

end ODataBrowser.Text
