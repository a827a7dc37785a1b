import ODataBrowser.Calendar.Timestamp
import ODataBrowser.Json.Text
import ODataBrowser.Number.Decimal

/-!
# Values

What a table cell, a filter or a response can hold: a scalar, a list, or a map that keeps the order of
its entries. Keys of maps are scalars; those of a response are texts.
-/

namespace ODataBrowser

/-- A value without parts. -/
inductive Scalar where
  | null
  | bool (b : Bool)
  | int (n : Int)
  | float (x : Binary64)
  | decimal (d : Decimal)
  | textual (t : JsonText)
  | date (d : Date)
  | timestamp (t : Timestamp)
deriving DecidableEq

/-- A text that is a string. -/
@[match_pattern] abbrev Scalar.text (s : String) : Scalar := .textual (.string s)

/-- A value: a scalar, a list, or a map. -/
inductive Value where
  | scalar (s : Scalar)
  | list (items : List Value)
  | map (entries : List (Scalar × Value))

namespace Value

/-- The null value. -/
@[match_pattern] abbrev null : Value := .scalar .null

/-- A truth value. -/
@[match_pattern] abbrev bool (b : Bool) : Value := .scalar (.bool b)

/-- An integer. -/
@[match_pattern] abbrev int (n : Int) : Value := .scalar (.int n)

/-- A double. -/
@[match_pattern] abbrev float (x : Binary64) : Value := .scalar (.float x)

/-- A decimal number. -/
@[match_pattern] abbrev decimal (d : Decimal) : Value := .scalar (.decimal d)

/-- A text. -/
@[match_pattern] abbrev textual (t : JsonText) : Value := .scalar (.textual t)

/-- A text that is a string. -/
@[match_pattern] abbrev text (s : String) : Value := .textual (.string s)

/-- A calendar date. -/
@[match_pattern] abbrev date (d : Date) : Value := .scalar (.date d)

/-- A timestamp. -/
@[match_pattern] abbrev timestamp (t : Timestamp) : Value := .scalar (.timestamp t)

instance : Inhabited Value := ⟨null⟩

mutual

/-- Whether two values are the same, in kind and parts. -/
def decEq : (v w : Value) → Decidable (v = w)
  | .scalar s, .scalar t => decidable_of_iff (s = t) (by simp)
  | .list xs, .list ys => @decidable_of_iff _ (xs = ys) (by simp) (decEqItems xs ys)
  | .map xs, .map ys => @decidable_of_iff _ (xs = ys) (by simp) (decEqEntries xs ys)
  | .scalar _, .list _ | .scalar _, .map _ | .list _, .scalar _ | .list _, .map _ | .map _, .scalar _
  | .map _, .list _ => isFalse nofun

/-- Whether two lists of items are the same. -/
def decEqItems : (xs ys : List Value) → Decidable (xs = ys)
  | [], [] => isTrue rfl
  | x :: xs, y :: ys =>
    @decidable_of_iff _ (x = y ∧ xs = ys) (by simp) (@instDecidableAnd _ _ (decEq x y) (decEqItems xs ys))
  | [], _ :: _ | _ :: _, [] => isFalse nofun

/-- Whether two lists of entries are the same, in the same order. -/
def decEqEntries : (xs ys : List (Scalar × Value)) → Decidable (xs = ys)
  | [], [] => isTrue rfl
  | (key, x) :: xs, (key', y) :: ys =>
    @decidable_of_iff _ (key = key' ∧ x = y ∧ xs = ys) (by simp [and_assoc])
      (@instDecidableAnd _ _ inferInstance (@instDecidableAnd _ _ (decEq x y) (decEqEntries xs ys)))
  | [], _ :: _ | _ :: _, [] => isFalse nofun

end

instance : DecidableEq Value := decEq

/-- A map from texts. -/
def ofFields (fields : List (String × Value)) : Value :=
  .map (fields.map fun (name, v) => (.text name, v))

/-- The value of the entry with the given text as its key. -/
def lookup? (entries : List (Scalar × Value)) (name : String) : Option Value :=
  (entries.find? fun entry => entry.1 = .text name).map (·.2)

/-- The value of the entry with the given text as its key, null where the value is no map or has no
such entry. -/
def field (v : Value) (name : String) : Value :=
  match v with
  | .map entries => (lookup? entries name).getD null
  | _ => null

end Value

/-- Whether a scalar says something: null, false, the zeros and the empty text do not. -/
def Scalar.isPresent : Scalar → Bool
  | .null => false
  | .bool b => b
  | .int n => n != 0
  | .float x => !x.isZero
  | .decimal (.finite _ coefficient _) => coefficient != 0
  | .textual t => !t.isEmpty
  | _ => true

/-- Whether a value says something: beside the scalars that do not, the empty list and the empty map
do not. -/
def Value.isPresent : Value → Bool
  | .scalar s => s.isPresent
  | .list items => !items.isEmpty
  | .map entries => !entries.isEmpty

/-- Whether a value is a double that is no finite number. -/
def Value.isUnbounded : Value → Bool
  | .float x => !x.isFinite
  | _ => false

/-- The value if it says something, and the other one otherwise. -/
def Value.orElse (v other : Value) : Value :=
  if v.isPresent then v else other

end ODataBrowser
