/-!
# Digits

The decimal digits of all scripts (Unicode 14). Each script has ten of them in a row, so a digit is
known by the zero of its script. Digits to the base 16 are those of ASCII; letters among them are read in
either case and written in lower case.
-/

namespace ODataBrowser.Text

/-! ### Decimal digits -/

/-- The digit zero of each script. -/
def zeros : List Nat := [
  0x30, 0x660, 0x6F0, 0x7C0, 0x966, 0x9E6, 0xA66, 0xAE6, 0xB66, 0xBE6, 0xC66, 0xCE6, 0xD66,
  0xDE6, 0xE50, 0xED0, 0xF20, 0x1040, 0x1090, 0x17E0, 0x1810, 0x1946, 0x19D0, 0x1A80, 0x1A90,
  0x1B50, 0x1BB0, 0x1C40, 0x1C50, 0xA620, 0xA8D0, 0xA900, 0xA9D0, 0xA9F0, 0xAA50, 0xABF0, 0xFF10,
  0x104A0, 0x10D30, 0x11066, 0x110F0, 0x11136, 0x111D0, 0x112F0, 0x11450, 0x114D0, 0x11650,
  0x116C0, 0x11730, 0x118E0, 0x11950, 0x11C50, 0x11D50, 0x11DA0, 0x16A60, 0x16AC0, 0x16B50,
  0x1D7CE, 0x1D7D8, 0x1D7E2, 0x1D7EC, 0x1D7F6, 0x1E140, 0x1E2F0, 0x1E950, 0x1FBF0]

/-- The value of a decimal digit of any script. -/
def digit? (c : Char) : Option Nat :=
  match zeros.find? fun start => start ≤ c.toNat && c.toNat < start + 10 with
  | some start => some (c.toNat - start)
  | none => none

/-- Whether the character is a decimal digit of any script. -/
def isDigit (c : Char) : Bool :=
  (digit? c).isSome

/-- The number written by a row of digits, read on from `acc`. Other characters count as zero. -/
def natOfDigitsFrom (acc : Nat) : List Char → Nat
  | [] => acc
  | c :: rest => natOfDigitsFrom (10 * acc + (digit? c).getD 0) rest

/-- The number written by a row of digits. -/
def natOfDigits (cs : List Char) : Nat :=
  natOfDigitsFrom 0 cs

/-! ### Hexadecimal digits -/

/-- The value of a hexadecimal digit. -/
def hexDigit? (c : Char) : Option Nat :=
  if c.isDigit then some (c.toNat - 48)
  else if 'a' ≤ c ∧ c ≤ 'f' then some (c.toNat - 87)
  else if 'A' ≤ c ∧ c ≤ 'F' then some (c.toNat - 55)
  else none

/-- The hexadecimal numeral of a number, filled up with zeros to a width. -/
def hexText (width n : Nat) : List Char :=
  let digits := Nat.toDigits 16 n
  List.replicate (width - digits.length) '0' ++ digits

end ODataBrowser.Text
