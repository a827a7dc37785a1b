import ODataBrowser.Number.Decimal

/-!
# Exact numbers

Every integer, every double and every decimal that is a number has one exact form: a sign, digits without
trailing zeros, and a power of ten. Numbers of any two kinds are compared by this form, so that the comparison
never computes a large power.
-/

namespace ODataBrowser

/-- A number: `± digits * 10 ^ exponent`, or an infinity. The digits have no trailing zeros, and zero has
neither a sign nor an exponent. -/
inductive Exact where
  | finite (negative : Bool) (digits : Nat) (exponent : Int)
  | infinite (negative : Bool)
deriving DecidableEq, Repr

namespace Exact

/-- The number `± digits * 10 ^ exponent`. -/
def ofDigits (negative : Bool) (digits : Nat) (exponent : Int) : Exact :=
  if digits = 0 then .finite false 0 0
  else
    let (d, e) := Decimal.dropZeros (Numeral.ofNat digits).length digits exponent
    .finite negative d e

/-- An integer. -/
def ofInt (n : Int) : Exact :=
  ofDigits (n < 0) n.natAbs 0

/-- A double, none for not-a-number. A negative power of two is the same power of five and of a tenth. -/
def ofBinary64? : Binary64 → Option Exact
  | .nan => none
  | .infinite negative => some (.infinite negative)
  | .finite negative m e =>
    if 0 ≤ e then some (ofDigits negative (m * twoPow e.toNat) 0)
    else some (ofDigits negative (m * Nat.pow 5 (-e).toNat) e)

/-- A decimal, none for not-a-number. -/
def ofDecimal? : Decimal → Option Exact
  | .nan .. => none
  | .infinite negative => some (.infinite negative)
  | .finite negative coefficient exponent => some (ofDigits negative coefficient exponent)

/-- Whether the first of two positive numbers is the smaller one: the one with fewer digits before the point,
or, where these are as many, the one with the smaller digits. -/
def isBelow (digits : Nat) (exponent : Int) (digits' : Nat) (exponent' : Int) : Bool :=
  let size : Int := (Numeral.ofNat digits).length + exponent
  let size' : Int := (Numeral.ofNat digits').length + exponent'
  if size < size' then true
  else if size' < size then false
  else digits * tenPow (exponent - exponent').toNat < digits' * tenPow (exponent' - exponent).toNat

/-- Whether the first number is smaller than the second. -/
def lt : Exact → Exact → Bool
  | .infinite s, .infinite s' => s && !s'
  | .infinite s, .finite .. => s
  | .finite .., .infinite s => !s
  | .finite s d e, .finite s' d' e' =>
    if d = 0 then !s' && d' != 0
    else if d' = 0 then s
    else if s then !s' || isBelow d' e' d e
    else !s' && isBelow d e d' e'

example : lt (ofDigits false 999 (-2)) (ofInt 10) = true := by decide

end Exact

end ODataBrowser
