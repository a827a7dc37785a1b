/-!
# Double-precision numbers

A double is kept exactly: a sign, a significand below `2 ^ 53` and a power of two, or one of the
infinities, or not a number. All arithmetic goes through `Binary64.ofRatio`, which rounds a quotient
of natural numbers to the nearest double, a tie to the even significand.
-/

namespace ODataBrowser

/-! ### Powers -/

/-- A power of two. -/
def twoPow (exponent : Nat) : Nat :=
  Nat.pow 2 exponent

/-- A power of ten. -/
def tenPow (exponent : Nat) : Nat :=
  Nat.pow 10 exponent

theorem tenPow_pos (exponent : Nat) : 0 < tenPow exponent :=
  Nat.pow_pos (by decide)

/-! ### Doubles -/

/-- The quotient rounded to the nearest natural number, a half to the even neighbour. -/
def roundHalfEven (n d : Nat) : Nat :=
  let q := n / d
  match compare (2 * (n % d)) d with
  | .lt => q
  | .gt => q + 1
  | .eq => q + q % 2

/-- A double-precision number. A finite one is `± significand * 2 ^ exponent`; its significand is at
least `2 ^ 52` unless the exponent is the least one, `-1074`. -/
inductive Binary64 where
  | nan
  | infinite (negative : Bool)
  | finite (negative : Bool) (significand : Nat) (exponent : Int)
deriving DecidableEq, Repr

namespace Binary64

/-- The quotient `n / d` divided by `2 ^ e`, as a quotient of natural numbers. -/
def scaledRatio (n d : Nat) (e : Int) : Nat × Nat :=
  if 0 ≤ e then (n, d * twoPow e.toNat) else (n * twoPow (-e).toNat, d)

/-- The exponent at which the quotient `n / d` has a significand of 53 bits, or the least exponent. -/
def exponentOf (n d : Nat) : Int :=
  let guess : Int := (n.log2 : Int) - d.log2 - 52
  let (n', d') := scaledRatio n d guess
  max (-1074) (if n' < twoPow 52 * d' then guess - 1 else guess)

/-- The double with the given significand, which may have just reached `2 ^ 53`. -/
def normalized (negative : Bool) (significand : Nat) (exponent : Int) : Binary64 :=
  let (m, e) := if significand = twoPow 53 then (twoPow 52, exponent + 1) else (significand, exponent)
  if 971 < e then .infinite negative else .finite negative m e

/-- The double nearest to `± n / d`. -/
def ofRatio (negative : Bool) (n d : Nat) : Binary64 :=
  if n = 0 then .finite negative 0 (-1074)
  else
    let e := exponentOf n d
    let (n', d') := scaledRatio n d e
    normalized negative (roundHalfEven n' d') e

/-- The number of decimal digits of `n`. -/
def digitCount (n : Nat) : Nat :=
  (Nat.toDigits 10 n).length

/-- The double nearest to `± digits * 10 ^ exponent`. Exponents far outside the range of doubles are
answered without computing the power. -/
def ofDecimal (negative : Bool) (digits : Nat) (exponent : Int) : Binary64 :=
  if digits = 0 then .finite negative 0 (-1074)
  else if 400 < exponent + digitCount digits then .infinite negative
  else if exponent + digitCount digits < -400 then .finite negative 0 (-1074)
  else if 0 ≤ exponent then ofRatio negative (digits * tenPow exponent.toNat) 1
  else ofRatio negative digits (tenPow (-exponent).toNat)

/-- The double nearest to an integer, or `none` if that lies beyond the largest double. -/
def ofInt? (n : Int) : Option Binary64 :=
  match ofRatio (n < 0) n.natAbs 1 with
  | .infinite _ => none
  | x => some x

/-- The absolute value of a finite double as a quotient of natural numbers. -/
def magnitude (significand : Nat) (exponent : Int) : Nat × Nat :=
  if 0 ≤ exponent then (significand * twoPow exponent.toNat, 1)
  else (significand, twoPow (-exponent).toNat)

/-- Whether the number is finite. -/
def isFinite : Binary64 → Bool
  | .finite .. => true
  | _ => false

/-- Whether the number is a zero of either sign. -/
def isZero : Binary64 → Bool
  | .finite _ m _ => m == 0
  | _ => false

/-- Whether the number is below zero. -/
def isBelowZero : Binary64 → Bool
  | .nan => false
  | .infinite negative => negative
  | .finite negative m _ => negative && m != 0

/-- The integer part of a finite number, toward zero. -/
def truncate? : Binary64 → Option Int
  | .finite negative m e =>
    let (n, d) := magnitude m e
    some (if negative then -(n / d : Nat) else (n / d : Nat))
  | _ => none

/-- The integer that the number is, if it is one. -/
def toInt? : Binary64 → Option Int
  | .finite negative m e =>
    let (n, d) := magnitude m e
    if n % d = 0 then some (if negative then -(n / d : Nat) else (n / d : Nat)) else none
  | _ => none

/-- The number divided by a positive natural number, rounded. -/
def divNat (x : Binary64) (k : Nat) : Binary64 :=
  match x with
  | .finite negative m e =>
    let (n, d) := magnitude m e
    ofRatio negative n (d * k)
  | x => x

/-- The number `± significand * 2 ^ shift`. -/
def shifted (negative : Bool) (significand shift : Nat) : Int :=
  let n : Int := (significand * twoPow shift : Nat)
  if negative then -n else n

/-- The difference of two numbers, rounded. A zero is positive. -/
def sub : Binary64 → Binary64 → Binary64
  | .finite s m e, .finite s' m' e' =>
    let least := min e e'
    let n := shifted s m (e - least).toNat - shifted s' m' (e' - least).toNat
    let (n', d') := magnitude n.natAbs least
    ofRatio (n < 0) n' d'
  | .infinite s, .infinite s' => if s = s' then .nan else .infinite s
  | .infinite s, .finite .. => .infinite s
  | .finite .., .infinite s => .infinite !s
  | _, _ => .nan

end Binary64

end ODataBrowser
