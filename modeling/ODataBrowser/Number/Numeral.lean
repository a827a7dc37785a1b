import ODataBrowser.Number.Binary64
import ODataBrowser.Text.Blank
import ODataBrowser.Text.Digit

/-!
# Numerals

Writing and reading of numbers as people type them. A numeral may be surrounded by white space, its
digits may come from any script, and a single underscore may stand between two digits.
-/

namespace ODataBrowser.Numeral

open ODataBrowser.Text

/-- The decimal numeral of a natural number. -/
def ofNat (n : Nat) : List Char :=
  Nat.toDigits 10 n

/-- The decimal numeral of an integer. -/
def ofInt : Int → List Char
  | .ofNat n => ofNat n
  | .negSucc n => '-' :: ofNat (n + 1)

/-- The decimal numeral of a natural number, filled up with zeros to a width. -/
def padded (width n : Nat) : List Char :=
  let digits := ofNat n
  List.replicate (width - digits.length) '0' ++ digits

/-- The white space that may surround a numeral: the blanks and line breaks of ASCII and all white
space beyond it. -/
def isPadding (c : Char) : Bool :=
  c == ' ' || ('\t' ≤ c && c ≤ '\r') || (128 ≤ c.toNat && isBlank c)

/-- The text without the white space around it. -/
def unpadded (cs : List Char) : List Char :=
  dropEndWhile isPadding (cs.dropWhile isPadding)

/-- The values of the rest of a row of digits; `needed` says that a digit has to come next. -/
def digitRowFrom (needed : Bool) : List Char → Option (List Nat)
  | [] => if needed then none else some []
  | c :: rest =>
    match digit? c with
    | some d => (digitRowFrom false rest).map (d :: ·)
    | none => if c = '_' ∧ needed = false then digitRowFrom true rest else none

/-- The values of a row of digits with single underscores between them. -/
def digitRow (cs : List Char) : Option (List Nat) :=
  digitRowFrom true cs

/-- The number with the given decimal digits. -/
def natOfValues (digits : List Nat) : Nat :=
  digits.foldl (fun n d => 10 * n + d) 0

/-- Splits off a sign; the flag says whether it is a minus. -/
def splitSign : List Char → Bool × List Char
  | '-' :: rest => (true, rest)
  | '+' :: rest => (false, rest)
  | cs => (false, cs)

/-- The greatest number of digits that an integer numeral may have. -/
def maxDigits : Nat := 4300

/-- Reads an integer. -/
def readInt (cs : List Char) : Option Int :=
  let (negative, rest) := splitSign (unpadded cs)
  match digitRow rest with
  | none => none
  | some digits =>
    if maxDigits < digits.length then none
    else
      let n : Int := natOfValues digits
      some (if negative then -n else n)

/-- A row of digits that may be missing. -/
def optionalRow (cs : List Char) : Option (List Nat) :=
  if cs.isEmpty then some [] else digitRow cs

/-- The exponent behind its letter, or zero where the text has none. -/
def readExponent : List Char → Option Int
  | [] => some 0
  | _ :: rest =>
    let (negative, digits) := splitSign rest
    (digitRow digits).map fun digits =>
      let n : Int := natOfValues digits
      if negative then -n else n

/-- Whether the character introduces an exponent. -/
def isExponentMark (c : Char) : Bool :=
  c == 'e' || c == 'E'

/-- A number in decimal notation: its digits and the power of ten they are multiplied by. -/
def readUnsigned (cs : List Char) : Option (List Nat × Int) := do
  let mantissa := cs.takeWhile (!isExponentMark ·)
  let exponent ← readExponent (cs.dropWhile (!isExponentMark ·))
  let whole ← optionalRow (mantissa.takeWhile (· != '.'))
  let fraction ← optionalRow ((mantissa.dropWhile (· != '.')).drop 1)
  if whole.isEmpty && fraction.isEmpty then none
  else some (whole ++ fraction, exponent - fraction.length)

/-- The text in lower case, letters outside ASCII left alone. -/
def asciiLower (cs : List Char) : List Char :=
  cs.map Char.toLower

/-- Reads a double: a number in decimal notation, or one of the words for infinity and for not a
number in any case. -/
def readBinary64 (cs : List Char) : Option Binary64 :=
  let (negative, rest) := splitSign (unpadded cs)
  let word := asciiLower rest
  if word = ['i', 'n', 'f'] ∨ word = ['i', 'n', 'f', 'i', 'n', 'i', 't', 'y'] then
    some (.infinite negative)
  else if word = ['n', 'a', 'n'] then some .nan
  else (readUnsigned rest).map fun (digits, exponent) =>
    .ofDecimal negative (natOfValues digits) exponent

end ODataBrowser.Numeral
