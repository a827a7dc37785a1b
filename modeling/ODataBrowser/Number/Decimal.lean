import ODataBrowser.Number.Numeral

/-!
# Decimal numbers

Decimal floating-point numbers keep their digits and their exponent as written, so that `1.50` and
`1.5` are two numbers of equal value. Calculation is done with 28 digits, a half rounded to the even
neighbour.
-/

namespace ODataBrowser

/-- A decimal number: `± coefficient * 10 ^ exponent`, an infinity, or not a number. -/
inductive Decimal where
  | finite (negative : Bool) (coefficient : Nat) (exponent : Int)
  | infinite (negative : Bool)
  | nan (negative signaling : Bool) (payload : Option Nat)
deriving DecidableEq, Repr

namespace Decimal

/-- The number of digits that calculation keeps. -/
def precision : Nat := 28

/-- The greatest exponent of the leading digit that calculation can represent. -/
def maxExponent : Int := 999999

/-- The text of a decimal: positional while the exponent is not positive and at most five zeros
follow the point, scientific otherwise. -/
def text : Decimal → List Char
  | .infinite negative => (if negative then ['-'] else []) ++ "Infinity".toList
  | .nan negative signaling payload =>
    (if negative then ['-'] else []) ++ (if signaling then ['s'] else []) ++ "NaN".toList ++
      (match payload with
        | some n => Numeral.ofNat n
        | none => [])
  | .finite negative coefficient exponent =>
    let digits := Numeral.ofNat coefficient
    let left : Int := exponent + digits.length
    let point : Int := if exponent ≤ 0 ∧ -6 < left then left else 1
    let shown :=
      if point ≤ 0 then ['0', '.'] ++ List.replicate (-point).toNat '0' ++ digits
      else
        let fraction := digits.drop point.toNat
        digits.take point.toNat ++ List.replicate (point.toNat - digits.length) '0' ++
          (if fraction.isEmpty then [] else '.' :: fraction)
    (if negative then ['-'] else []) ++ shown ++
      (if left = point then []
        else 'E' :: (if left < point then [] else ['+']) ++ Numeral.ofInt (left - point))

/-- Whether the number is finite. -/
def isFinite : Decimal → Bool
  | .finite .. => true
  | _ => false

/-- Whether the number is a signaling not-a-number, which no comparison accepts. -/
def isSignaling : Decimal → Bool
  | .nan _ signaling _ => signaling
  | _ => false

/-- Whether the number is an integer. -/
def isIntegral : Decimal → Bool
  | .finite _ coefficient exponent =>
    coefficient == 0 || 0 ≤ exponent ||
      (-exponent ≤ (Numeral.ofNat coefficient).length &&
        coefficient % tenPow (-exponent).toNat == 0)
  | _ => false

/-- Moves the trailing zeros of a coefficient into the exponent, at most `fuel` of them. -/
def dropZeros : Nat → Nat → Int → Nat × Int
  | 0, coefficient, exponent => (coefficient, exponent)
  | fuel + 1, coefficient, exponent =>
    if coefficient % 10 = 0 then dropZeros fuel (coefficient / 10) (exponent + 1)
    else (coefficient, exponent)

/-- The coefficient rounded to the precision of calculation. -/
def rounded (coefficient : Nat) (exponent : Int) : Nat × Int :=
  let surplus := (Numeral.ofNat coefficient).length - precision
  (roundHalfEven coefficient (tenPow surplus), exponent + surplus)

/-- The finite number as calculation represents it, without trailing zeros: coefficient and exponent,
or `none` where it is too large to be represented. -/
def normalize? (coefficient : Nat) (exponent : Int) : Option (Nat × Int) :=
  if coefficient = 0 then some (0, 0)
  else
    let (c, e) := rounded coefficient exponent
    if maxExponent < e + (Numeral.ofNat c).length - 1 then none
    else some (dropZeros (Numeral.ofNat c).length c e)

/-- The integer `± coefficient * 10 ^ exponent` written out. -/
def integerText (negative : Bool) (coefficient : Nat) (exponent : Int) : List Char :=
  (if negative then ['-'] else []) ++ Numeral.ofNat coefficient ++
    List.replicate exponent.toNat '0'

/-- The payload of not-a-number; zero is none. -/
def payloadOf (n : Nat) : Option Nat :=
  if n = 0 then none else some n

/-- Reads a decimal: a number in decimal notation, or a word for infinity or not a number. Underscores are
passed over wherever they stand. -/
def read? (cs : List Char) : Option Decimal :=
  let (negative, rest) := Numeral.splitSign ((Text.strip cs).filter (· != '_'))
  let word := Numeral.asciiLower rest
  if word = "inf".toList ∨ word = "infinity".toList then some (.infinite negative)
  else
    let (signaling, tail) := match word with
      | 's' :: tail => (true, tail)
      | _ => (false, word)
    match tail with
    | 'n' :: 'a' :: 'n' :: payload =>
      if payload.isEmpty then some (.nan negative signaling none)
      else (Numeral.digitRow payload).map fun digits =>
        .nan negative signaling (payloadOf (Numeral.natOfValues digits))
    | _ => (Numeral.readUnsigned rest).map fun (digits, exponent) =>
      .finite negative (Numeral.natOfValues digits) exponent

end Decimal

end ODataBrowser
