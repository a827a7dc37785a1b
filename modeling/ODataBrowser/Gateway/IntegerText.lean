import ODataBrowser.Number.Numeral
import ODataBrowser.Text.Search

/-!
# Integers as users write them

An integer in a page form may be a text. Its plain form is that of JSON: perhaps a minus, and digits without
superfluous zeros. A text in another form is brought to it first, part by part: a plus, zeros at the start, a
fraction of zeros, and single underscores between digits are dropped.
-/

namespace ODataBrowser.IntegerText

open Text

/-- The text without white space at its ends; the information separators of ASCII do not count as such. -/
def trimmed (cs : List Char) : List Char :=
  let isSpace (c : Char) : Bool := isBlank c && !('\x1c' ≤ c && c ≤ '\x1f')
  dropEndWhile isSpace (cs.dropWhile isSpace)

/-- The integer of a text in plain form. -/
def plain? (cs : List Char) : Option Int :=
  let (negative, digits) := match cs with
    | '-' :: rest => (true, rest)
    | _ => (false, cs)
  if digits.isEmpty || !digits.all Char.isDigit || Numeral.maxDigits < cs.length then none
  else if digits.head? = some '0' && digits ≠ ['0'] then none
  else
    let n : Int := Numeral.natOfValues (digits.map fun c => c.toNat - 48)
    some (if negative then -n else n)

/-- What follows a zero at the start, where `last` is the character before: the text from its first other digit
or minus on, from the character before its point on, or else its last character. -/
def behindZeros (last : Char) : List Char → Option (List Char)
  | [] => some [last]
  | c :: rest =>
    if c = '0' ∨ c = '_' then behindZeros c rest
    else if c.isDigit ∨ c = '-' then some (c :: rest)
    else if c = '.' then some (last :: c :: rest)
    else none

/-- The text without zeros at its start. -/
def withoutZeros : List Char → Option (List Char)
  | '0' :: rest => behindZeros '0' rest
  | c :: rest => if c.isDigit ∨ c = '-' then some (c :: rest) else none
  | [] => none

/-- The text without a fraction of zeros. -/
def withoutFraction (cs : List Char) : List Char :=
  match splitWhile (· != '.') cs with
  | (whole, '.' :: zeros) => if zeros.all (· == '0') && !zeros.isEmpty then whole else cs
  | _ => cs

/-- The text without its underscores, none where one stands at an end or beside another. -/
def withoutUnderscores? (cs : List Char) : Option (List Char) :=
  if cs.head? = some '_' || cs.getLast? = some '_' || occurs ['_', '_'] cs then none
  else some (cs.filter (· != '_'))

/-- The text without a plus; a minus may not follow it. -/
def withoutPlus? : List Char → Option (List Char)
  | '+' :: '-' :: _ => none
  | '+' :: rest => some rest
  | cs => some cs

/-- The integer of a text that may not be in plain form. -/
def cleaned? (cs : List Char) : Option Int := do
  let cs ← withoutPlus? cs
  let digits ← withoutZeros (if cs.head? = some '-' then cs.tail else cs)
  let digits ← withoutUnderscores? (withoutFraction digits)
  plain? (if cs.head? = some '-' then '-' :: digits else digits)

/-- Reads an integer. -/
def read? (cs : List Char) : Option Int :=
  plain? (trimmed cs) <|> cleaned? (trimmed cs)

example : (["0__5", "5.0", "0-5", "5.", "-05"].map fun s => read? s.toList) =
    [some 5, some 5, some (-5), none, some (-5)] := by decide

end ODataBrowser.IntegerText
