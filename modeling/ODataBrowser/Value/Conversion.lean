import ODataBrowser.Fault

/-!
# Conversion

Values of other kinds where an integer or a double is wanted: truth values count as one and zero,
doubles and decimals lose their fraction, texts are read as numerals. Where a string is wanted, only a text
will do. All values have texts, but not all of these can be written out: an integer may not have too many digits,
and not too many lists and maps may stand around each other.
-/

namespace ODataBrowser

/-- A decimal without its fraction. -/
def Decimal.truncate : Decimal → Except Fault Int
  | .finite negative coefficient exponent =>
    let n : Int :=
      if 0 ≤ exponent then coefficient * tenPow exponent.toNat
      else if (Numeral.ofNat coefficient).length < -exponent then 0
      else (coefficient / tenPow (-exponent).toNat : Nat)
    .ok (if negative then -n else n)
  | .infinite _ => .error .outOfRange
  | .nan .. => .error .unreadable

/-- The double nearest to a decimal. A signaling not-a-number has none. -/
def Decimal.toBinary64 : Decimal → Except Fault Binary64
  | .finite negative coefficient exponent => .ok (.ofDecimal negative coefficient exponent)
  | .infinite negative => .ok (.infinite negative)
  | .nan _ signaling _ => if signaling then .error .unreadable else .ok .nan

/-- Checks that the text of a scalar can be written out: an integer may not have too many digits. -/
def Scalar.checkText : Scalar → Except Fault Unit
  | .int n => if tenPow Numeral.maxDigits ≤ n.natAbs then .error .unreadable else .ok ()
  | _ => .ok ()

namespace Value

/-! ### Texts -/

mutual

/-- Checks that the text of a value can be written out, with room for so many lists and maps around each other. -/
def checkText : (room : Nat) → Value → Except Fault Unit
  | _, .scalar s => s.checkText
  | 0, _ => .error .tooDeep
  | room + 1, .list items => checkTexts room items
  | room + 1, .map entries => checkEntryTexts room entries

/-- Checks the items of a list, one after the other. -/
def checkTexts : (room : Nat) → List Value → Except Fault Unit
  | _, [] => .ok ()
  | room, v :: rest => do
    checkText room v
    checkTexts room rest

/-- Checks the entries of a map, one after the other. -/
def checkEntryTexts : (room : Nat) → List (Scalar × Value) → Except Fault Unit
  | _, [] => .ok ()
  | room, (key, v) :: rest => do
    key.checkText
    checkText room v
    checkEntryTexts room rest

end

/-- How many lists and maps may stand around each other in a value that is written out. -/
def maxDepth : Nat := 985

/-! ### Numbers and strings -/

/-- The integer that a value stands for. -/
def toInt : Value → Except Fault Int
  | .bool b => .ok (if b then 1 else 0)
  | .int n => .ok n
  | .float .nan => .error .unreadable
  | .float x =>
    match x.truncate? with
    | some n => .ok n
    | none => .error .outOfRange
  | .decimal d => d.truncate
  | .textual t =>
    match Numeral.readInt t.shown with
    | some n => .ok n
    | none => .error .unreadable
  | _ => .error .wrongKind

/-- The double that a value stands for. -/
def toBinary64 : Value → Except Fault Binary64
  | .bool b => .ok (.ofRatio false (if b then 1 else 0) 1)
  | .int n =>
    match Binary64.ofInt? n with
    | some x => .ok x
    | none => .error .outOfRange
  | .float x => .ok x
  | .decimal d => d.toBinary64
  | .textual t =>
    match Numeral.readBinary64 t.shown with
    | some x => .ok x
    | none => .error .unreadable
  | _ => .error .wrongKind

/-- The text that a value is. -/
def toJsonText : Value → Except Fault JsonText
  | .textual t => .ok t
  | _ => .error .notText

/-- The string that a value is. -/
def toText : Value → Except Fault String
  | .textual t => .ok (String.ofList t.shown)
  | _ => .error .notText

/-- The string that a value is; a value that says nothing is empty. -/
def toTextOrEmpty (v : Value) : Except Fault String :=
  (v.orElse (.text "")).toText

end Value

end ODataBrowser
