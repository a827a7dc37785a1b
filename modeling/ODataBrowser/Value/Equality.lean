import ODataBrowser.Fault
import ODataBrowser.Number.Exact

/-!
# Equality of values

Values are compared by what they mean: numbers of any kind by their exact value, truth values as the
numbers one and zero, timestamps with offsets by their instants. Not-a-number equals nothing, and a
signaling not-a-number cannot even be compared with a number. Maps are equal when they have equal entries in
any order.
-/

namespace ODataBrowser

namespace Scalar

/-- The number that a scalar is, if it is one. -/
def toExact? : Scalar → Option Exact
  | .bool b => some (.ofInt (if b then 1 else 0))
  | .int n => some (.ofInt n)
  | .float x => Exact.ofBinary64? x
  | .decimal d => Exact.ofDecimal? d
  | _ => none

/-- Whether the scalar is not-a-number. -/
def isNotANumber : Scalar → Bool
  | .float .nan => true
  | .decimal (.nan ..) => true
  | _ => false

/-- Whether the scalar is a number or not-a-number. -/
def isNumeric (s : Scalar) : Bool :=
  s.toExact?.isSome || s.isNotANumber

/-- Whether two scalars mean the same. -/
def same (a b : Scalar) : Bool :=
  match a, b with
  | .textual t, .textual u => t == u
  | .int m, .int n => m == n
  | .timestamp t, .timestamp u =>
    if t.offset.isSome == u.offset.isSome then t.instant == u.instant else false
  | a, b =>
    match a.toExact?, b.toExact? with
    | some x, some y => x == y
    | none, none => a == b && !a.isNotANumber
    | _, _ => false

/-- A text is the same as itself only. -/
theorem textual_same_iff {t : JsonText} {s : Scalar} : (textual t).same s = true ↔ s = .textual t := by
  cases s with
  | textual u =>
    simp only [same, beq_iff_eq, textual.injEq]
    exact eq_comm
  | float x => cases h : Exact.ofBinary64? x <;> simp [same, toExact?, h]
  | decimal d => cases h : Exact.ofDecimal? d <;> simp [same, toExact?, h]
  | _ => simp [same, toExact?]

theorem same_textual_iff {t : JsonText} {s : Scalar} : s.same (.textual t) = true ↔ s = .textual t := by
  cases s with
  | textual u => simp only [same, beq_iff_eq, textual.injEq]
  | float x => cases h : Exact.ofBinary64? x <;> simp [same, toExact?, h]
  | decimal d => cases h : Exact.ofDecimal? d <;> simp [same, toExact?, h]
  | _ => simp [same, toExact?]

/-- Whether the scalar can be a key; a signaling not-a-number cannot. -/
def isKey : Scalar → Bool
  | .decimal d => !d.isSignaling
  | _ => true

/-- Compares two scalars, unless one is a signaling not-a-number and the other a number of any kind. -/
def compare (a b : Scalar) : Except Fault Bool :=
  if (!a.isKey || !b.isKey) && a.isNumeric && b.isNumeric then .error .signalingComparison
  else .ok (a.same b)

theorem compare_textual (t : JsonText) (s : Scalar) :
    (textual t).compare s = .ok ((textual t).same s) := by
  simp [compare, isNumeric, toExact?, isNotANumber]

end Scalar

namespace Value

/-- A value as a key. -/
def toKey : Value → Except Fault Scalar
  | .scalar s => if s.isKey then .ok s else .error .wrongKind
  | _ => .error .wrongKind

mutual

/-- Compares two values. Parts are compared up to the first difference. -/
def compare : Value → Value → Except Fault Bool
  | .scalar a, .scalar b => a.compare b
  | .list items, .list others =>
    if items.length = others.length then compareItems items others else .ok false
  | .map entries, .map others =>
    if entries.length = others.length then compareEntries entries others else .ok false
  | _, _ => .ok false

/-- Compares the items of two lists. -/
def compareItems : List Value → List Value → Except Fault Bool
  | v :: rest, w :: others => do
    if ← v.compare w then compareItems rest others else return false
  | _, _ => .ok true

/-- Whether every entry of the first map is in the second. -/
def compareEntries : List (Scalar × Value) → List (Scalar × Value) → Except Fault Bool
  | [], _ => .ok true
  | (key, v) :: rest, others =>
    match others.find? fun entry => entry.1.same key with
    | some entry => do
      if ← v.compare entry.2 then compareEntries rest others else return false
    | none => .ok false

end

end Value

end ODataBrowser
