/-!
# Tables of code points

A set of code points is kept as the increasing list of the points at which membership changes: the
first point is in the set, the second is the first point beyond that run, and so on. Case mappings come in
runs too: the code points from `first` to `last`, each `step` further than the one before, are all moved by
the same distance.
-/

namespace ODataBrowser.Text

/-! ### Sets -/

/-- A set of code points. -/
structure CodeSet where
  /-- The points where membership changes, in increasing order. -/
  changes : List Nat

namespace CodeSet

/-- Membership of `n`, when `inside` says whether the point before the first change is a member. -/
def containsFrom (n : Nat) (inside : Bool) : List Nat → Bool
  | [] => inside
  | change :: rest => if n < change then inside else containsFrom n (!inside) rest

/-- Whether the set contains the character. -/
def contains (s : CodeSet) (c : Char) : Bool :=
  containsFrom c.toNat false s.changes

end CodeSet

/-! ### Case mappings -/

/-- A run of code points that are all moved by the same distance. -/
structure CaseRun where
  /-- The first code point of the run. -/
  first : Nat
  /-- The last code point of the run. -/
  last : Nat
  /-- The distance between neighbours of the run. -/
  step : Nat
  /-- The distance by which each of them is moved. -/
  shift : Int

/-- Whether the code point belongs to the run. -/
def CaseRun.covers (r : CaseRun) (n : Nat) : Bool :=
  r.first ≤ n && n ≤ r.last && (n - r.first) % r.step == 0

/-- Moves a character by the run that covers it; a character outside all runs stays. -/
def shiftBy (runs : List CaseRun) (c : Char) : Char :=
  match runs.find? (·.covers c.toNat) with
  | some r => Char.ofNat (c.toNat + r.shift).toNat
  | none => c

end ODataBrowser.Text
