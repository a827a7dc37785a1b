import ODataBrowser.Number.Binary64

/-!
# Shortest decimal text

The text of a double has the fewest significant digits that read back as the same double; of several
such decimals it is the nearest, and of two equally near ones that with the even last digit.
Numbers from `0.0001` up to `10 ^ 16` are written positionally and always with a point; all others
in scientific notation with an exponent of at least two digits.
-/

namespace ODataBrowser.Binary64

/-- The least `k` with `n / d < 10 ^ k`. -/
def decimalPoint (n d : Nat) : Int :=
  let guess : Int := ((n.log2 : Int) - d.log2) * 30103 / 100000
  let isAbove (k : Int) : Bool :=
    if 0 ≤ k then n < d * tenPow k.toNat else n * tenPow (-k).toNat < d
  (([-1, 0, 1, 2].map fun i : Int => guess + i).find? isAbove).getD guess

/-- The decimal `digits * 10 ^ exponent`. -/
structure Notation where
  digits : Nat
  exponent : Int
deriving DecidableEq, Repr

/-- A decimal with at most `count` digits that reads back as the positive double `m * 2 ^ e`: of the
two neighbours of the double among such decimals, the nearer that does. -/
def withDigits? (m : Nat) (e : Int) (count : Nat) : Option Notation :=
  let (n, d) := magnitude m e
  let unit : Int := decimalPoint n d - count
  let (n', d') :=
    if 0 ≤ unit then (n, d * tenPow unit.toNat) else (n * tenPow (-unit).toNat, d)
  let below := n' / d'
  let readsBack (digits : Nat) : Bool := ofDecimal false digits unit == .finite false m e
  let near := roundHalfEven n' d'
  let far := if near = below then below + 1 else below
  if readsBack near then some ⟨near, unit⟩
  else if readsBack far then some ⟨far, unit⟩
  else none

/-- The shortest decimal that reads back as the positive double `m * 2 ^ e`. -/
def shortest (m : Nat) (e : Int) : Notation :=
  ((List.range 17).findSome? fun i => withDigits? m e (i + 1)).getD ⟨m, e⟩

/-- The text of a finite double without its sign. -/
def positiveText (m : Nat) (e : Int) : List Char :=
  if m = 0 then ['0', '.', '0']
  else
    let decimal := shortest m e
    let all := Nat.toDigits 10 decimal.digits
    let point : Int := decimal.exponent + all.length
    let digits := (all.reverse.dropWhile (· == '0')).reverse
    if -4 < point ∧ point ≤ 16 then
      if point ≤ 0 then ['0', '.'] ++ List.replicate (-point).toNat '0' ++ digits
      else
        let whole := digits.take point.toNat
        let fraction := digits.drop point.toNat
        whole ++ List.replicate (point.toNat - whole.length) '0' ++ ['.'] ++
          (if fraction.isEmpty then ['0'] else fraction)
    else
      let power := point - 1
      let powerDigits := Nat.toDigits 10 power.natAbs
      digits.take 1 ++ (if digits.length ≤ 1 then [] else '.' :: digits.drop 1) ++
        ['e', if power < 0 then '-' else '+'] ++
        List.replicate (2 - powerDigits.length) '0' ++ powerDigits

/-- The text of a double. -/
def text : Binary64 → List Char
  | .nan => ['n', 'a', 'n']
  | .infinite negative => (if negative then ['-'] else []) ++ ['i', 'n', 'f']
  | .finite negative m e => (if negative then ['-'] else []) ++ positiveText m e

end ODataBrowser.Binary64
