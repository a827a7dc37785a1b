import ODataBrowser.Value.Conversion
import ODataBrowser.Value.Equality

/-!
# Order of numbers

Numbers of any kind are ordered by their exact values. Not-a-number is neither smaller nor larger than a number,
and where a decimal is involved it cannot even be ordered.
-/

namespace ODataBrowser

namespace Scalar

/-- Whether the scalar is a decimal. -/
def isDecimal : Scalar → Bool
  | .decimal _ => true
  | _ => false

/-- Whether the first of two numbers is the smaller one. -/
def less (a b : Scalar) : Except Fault Bool :=
  if !a.isNumeric || !b.isNumeric then .error .wrongKind
  else
    match a.toExact?, b.toExact? with
    | some x, some y => .ok (x.lt y)
    | _, _ => if a.isDecimal || b.isDecimal then .error .signalingComparison else .ok false

end Scalar

namespace Value

/-- Whether the first of two values is the smaller number. -/
def less : Value → Value → Except Fault Bool
  | .scalar a, .scalar b => a.less b
  | _, _ => .error .wrongKind

/-- The smaller of two numbers, the first one where neither is smaller. -/
def least (v w : Value) : Except Fault Value := do
  return if ← w.less v then w else v

/-- The difference of two numbers: exact for integers, and else that of the nearest doubles. -/
def difference : Value → Value → Except Fault Value
  | .int n, .int m => .ok (.int (n - m))
  | v, w => do
    let x ← v.toBinary64
    let y ← w.toBinary64
    return .float (x.sub y)

end Value

end ODataBrowser
