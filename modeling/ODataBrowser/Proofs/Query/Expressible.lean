import ODataBrowser.Proofs.Calendar.Range
import ODataBrowser.Proofs.Number.Decimal
import ODataBrowser.Proofs.Query.Filter
import ODataBrowser.Proofs.Value.Text

/-!
# Which values have a literal

Whether a value can be written in a filter depends on the type of its column (`exists_literalText_iff`). What cannot
be written are integers of more digits than can be written out, decimals beyond the range of calculation, signaling
not-a-numbers in columns of truth values, times outside the years 1 to 9999 of universal time, and values that are
nested too deeply. All other values are written, and one that the type cannot express as the fallback of the type
(`eq_fallback_of_literalText`).
-/

namespace ODataBrowser

/-- Whether a number is finite. -/
def Exact.IsFinite : Exact → Prop
  | .finite .. => True
  | .infinite _ => False

theorem Exact.isFinite_ofDigits (negative : Bool) (digits : Nat) (exponent : Int) :
    (ofDigits negative digits exponent).IsFinite := by
  unfold ofDigits
  split <;> trivial

/-! ## Comparing with one -/

namespace Scalar

theorem isKey_iff {s : Scalar} : s.isKey = true ↔ ∀ d, s = .decimal d → d.isSignaling = false := by
  cases s with
  | decimal d => simp [isKey]
  | _ => exact iff_of_true rfl nofun

theorem isNumeric_of_not_isKey {s : Scalar} (h : s.isKey = false) : s.isNumeric = true := by
  match s, h with
  | .decimal (.nan ..), _ => rfl

theorem exists_compare_one_iff {s : Scalar} (h : s.isNumeric = true) :
    (∃ b, s.compare (.int 1) = .ok b) ↔ s.isKey = true := by
  have hone : (int 1).isKey = true ∧ (int 1).isNumeric = true := ⟨rfl, rfl⟩
  unfold compare
  rw [hone.1, hone.2, h]
  cases s.isKey with
  | false => exact iff_of_false (fun h => nomatch h.choose_spec) Bool.false_ne_true
  | true => exact iff_of_true ⟨_, rfl⟩ rfl

theorem same_of_compare {s s' : Scalar} {b : Bool} (h : s.compare s' = .ok b) : s.same s' = b := by
  unfold compare at h
  split at h
  · contradiction
  · exact Except.ok.inj h

/-- What is the same as one is one, whatever kind of number it is. -/
theorem toExact?_of_same_one {s : Scalar} (h : s.same (.int 1) = true) : s.toExact? = some (.ofInt 1) := by
  cases s with
  | int n =>
    rw [show n = 1 from beq_iff_eq.1 h]
    rfl
  | bool b => simpa [same, toExact?] using h
  | float x => cases hx : Exact.ofBinary64? x <;> simp_all [same, toExact?]
  | decimal d => cases hd : Exact.ofDecimal? d <;> simp_all [same, toExact?]
  | _ => simp [same, toExact?] at h

end Scalar

theorem Fault.exists_map_eq_ok_iff {α β : Type} {x : Except Fault α} {f : α → β} :
    (∃ b, x.map f = .ok b) ↔ ∃ a, x = .ok a := by
  cases x with
  | error fault => exact iff_of_false nofun nofun
  | ok a => exact iff_of_true ⟨f a, rfl⟩ ⟨a, rfl⟩

theorem Fault.exists_eq_ok_unit_iff {x : Except Fault Unit} : (∃ u, x = .ok u) ↔ x = .ok () :=
  ⟨fun ⟨_, h⟩ => h, fun h => ⟨(), h⟩⟩

namespace Query

open Text

/-! ## Values that have a literal -/

/-- Whether a value has a literal in a column of numbers. What is no number is read from its text, which need not be
written out beyond an integer that is too long. -/
def HasNumber : Value → Prop
  | .int n => AreShort [n]
  | .decimal (.finite negative coefficient exponent) =>
    (Decimal.finite negative coefficient exponent).isIntegral = true →
      ¬(0 < coefficient ∧ Decimal.IsTooLarge coefficient exponent)
  | v => v.checkText Value.maxDepth ≠ .error .tooDeep

/-- Whether a value has a literal of the given column type. -/
def HasLiteral (v : Value) : Option ColumnType → Prop
  | some .number => HasNumber v
  | some .boolean => ∀ d, v = .decimal d → d.isSignaling = false
  | some .date =>
    ∀ t, toTimestamp v = some t → 0 ≤ t.instant ∧ t.instant < (Date.maxOrdinal * microsPerDay : Nat)
  | _ => AreShort v.integers ∧ v.depth ≤ Value.maxDepth

theorem exists_encodeDecimal_iff (negative : Bool) (coefficient : Nat) (exponent : Int) :
    (∃ cs, encodeDecimal (.finite negative coefficient exponent) = .ok cs) ↔
      HasNumber (.decimal (.finite negative coefficient exponent)) := by
  rw [HasNumber, ← Decimal.normalize?_eq_none_iff]
  simp only [encodeDecimal]
  split
  case isFalse hfraction => exact iff_of_true ⟨_, rfl⟩ fun h => absurd h hfraction
  case isTrue hintegral =>
    rw [forall_prop_of_true hintegral]
    cases hnormal : Decimal.normalize? coefficient exponent with
    | none => exact iff_of_false nofun (not_not_intro rfl)
    | some normal => exact iff_of_true ⟨_, rfl⟩ nofun

theorem exists_encodeNumeral_iff (v : Value) :
    (∃ cs, encodeNumeral v = .ok cs) ↔ v.checkText Value.maxDepth ≠ .error .tooDeep := by
  unfold encodeNumeral
  cases hcheck : v.checkText Value.maxDepth with
  | ok _ =>
    refine iff_of_true ?_ nofun
    dsimp only
    split <;> exact ⟨_, rfl⟩
  | error fault =>
    rcases Value.unreadable_or_tooDeep_of_checkText hcheck with rfl | rfl
    · exact iff_of_true ⟨_, rfl⟩ nofun
    · exact iff_of_false nofun (not_not_intro rfl)

theorem exists_encodeNumber_iff (v : Value) : (∃ cs, encodeNumber v = .ok cs) ↔ HasNumber v := by
  unfold encodeNumber
  split
  case h_1 b => exact iff_of_true ⟨_, rfl⟩ nofun
  case h_2 n =>
    rw [Fault.exists_map_eq_ok_iff, Fault.exists_eq_ok_unit_iff, Scalar.checkText_eq_ok_iff, HasNumber, Scalar.integers]
  case h_3 d =>
    cases d with
    | finite negative coefficient exponent => exact exists_encodeDecimal_iff negative coefficient exponent
    | _ => exact iff_of_true ⟨_, rfl⟩ nofun
  case h_4 x => exact iff_of_true ⟨_, rfl⟩ nofun
  case h_5 hbool hint hdecimal hfloat =>
    rw [exists_encodeNumeral_iff]
    unfold HasNumber
    split
    · exact absurd rfl (hint _)
    · exact absurd rfl (hdecimal _)
    · rfl

theorem exists_encodeBoolean_iff (v : Value) :
    (∃ cs, encodeBoolean v = .ok cs) ↔ ∀ d, v = .decimal d → d.isSignaling = false := by
  unfold encodeBoolean
  split
  case h_1 b => exact iff_of_true ⟨_, rfl⟩ nofun
  case h_2 t => exact iff_of_true ⟨_, rfl⟩ nofun
  case h_3 s _ _ =>
    simp only [Value.scalar.injEq]
    rw [← Scalar.isKey_iff]
    split
    case isTrue hnumeric => rw [Fault.exists_map_eq_ok_iff, Scalar.exists_compare_one_iff hnumeric]
    case isFalse hother =>
      exact iff_of_true ⟨_, rfl⟩ (by_contra fun h => hother (Scalar.isNumeric_of_not_isKey (Bool.eq_false_iff.2 h)))
  case h_4 hscalar => exact iff_of_true ⟨_, rfl⟩ fun d hd => absurd hd (hscalar _)

theorem exists_encodeDate_iff (v : Value) :
    (∃ cs, encodeDate v = .ok cs) ↔
      ∀ t, toTimestamp v = some t → 0 ≤ t.instant ∧ t.instant < (Date.maxOrdinal * microsPerDay : Nat) := by
  unfold encodeDate
  cases htime : toTimestamp v with
  | none => exact iff_of_true ⟨_, rfl⟩ nofun
  | some t =>
    have hrange : (∀ u, some t = some u → 0 ≤ u.instant ∧ u.instant < (Date.maxOrdinal * microsPerDay : Nat)) ↔
        t.inZone? 0 ≠ none := by
      rw [Ne, t.inZone?_zero_eq_none_iff, not_or, Int.not_lt, Int.not_le]
      exact ⟨fun h => h t rfl, fun h u hu => Option.some.inj hu ▸ h⟩
    rw [hrange]
    dsimp only
    cases t.inZone? 0 with
    | none => exact iff_of_false (fun h => nomatch h.choose_spec) (not_not_intro rfl)
    | some utc => exact iff_of_true ⟨_, rfl⟩ nofun

theorem exists_stringText_iff (v : Value) :
    (∃ t, stringText v = .ok t) ↔ AreShort v.integers ∧ v.depth ≤ Value.maxDepth := by
  unfold stringText
  split
  case h_1 t => exact iff_of_true ⟨_, rfl⟩ ⟨nofun, Nat.zero_le _⟩
  case h_2 => rw [Fault.exists_map_eq_ok_iff, Fault.exists_eq_ok_unit_iff, Value.checkText_eq_ok_iff]

/-- **A value is written** just if it has a literal of the type. -/
theorem exists_literalText_iff (v : Value) (type : Option ColumnType) :
    (∃ t, literalText v type = .ok t) ↔ HasLiteral v type := by
  match type with
  | some .number => exact Fault.exists_map_eq_ok_iff.trans (exists_encodeNumber_iff v)
  | some .boolean => exact Fault.exists_map_eq_ok_iff.trans (exists_encodeBoolean_iff v)
  | some .date => exact Fault.exists_map_eq_ok_iff.trans (exists_encodeDate_iff v)
  | some .string | some .object | none => exact exists_stringText_iff v

/-! ## Values that a type expresses -/

/-- What stands for a value that a column type cannot express. -/
def fallback : Option ColumnType → JsonText
  | some .number => .string "0"
  | some .boolean => .string "false"
  | _ => .string "''"

/-- The number that a value stands for in a column of numbers: a number or truth value is one itself, and all else has
the number that its text reads as. -/
def numberOf? : Value → Option Exact
  | .bool b => (Scalar.bool b).toExact?
  | .int n => (Scalar.int n).toExact?
  | .decimal d => (Scalar.decimal d).toExact?
  | .float x => (Scalar.float x).toExact?
  | v => (Numeral.readBinary64 (strip v.display)).bind Exact.ofBinary64?

/-- Whether a value is a truth value or says that it is true. -/
def IsTruth : Value → Prop
  | .bool _ => True
  | .text s => lowercase (strip s.toList) = "true".toList ∨ lowercase (strip s.toList) = ['1']
  | .scalar s => s.toExact? = some (.ofInt 1)
  | _ => False

/-- Whether a column type can express a value: numbers have to be finite, and all texts can be written. -/
def IsExpressible (v : Value) : Option ColumnType → Prop
  | some .number => ∃ x, numberOf? v = some x ∧ x.IsFinite
  | some .boolean => IsTruth v
  | some .date => (toTimestamp v).isSome = true
  | _ => True

theorem encodeBinary64_of_not_finite {x : Binary64} (h : ¬∃ y, Exact.ofBinary64? x = some y ∧ y.IsFinite) :
    encodeBinary64 x = ['0'] := by
  cases x with
  | finite negative m e =>
    refine absurd ?_ h
    unfold Exact.ofBinary64?
    dsimp only
    split <;> exact ⟨_, rfl, Exact.isFinite_ofDigits ..⟩
  | _ => rfl

theorem encodeNumber_of_not_expressible {v : Value} {cs : List Char}
    (h : ¬∃ x, numberOf? v = some x ∧ x.IsFinite) (hcs : encodeNumber v = .ok cs) : cs = ['0'] := by
  unfold encodeNumber at hcs
  split at hcs
  case h_1 b => exact absurd ⟨_, rfl, Exact.isFinite_ofDigits ..⟩ h
  case h_2 n => exact absurd ⟨_, rfl, Exact.isFinite_ofDigits ..⟩ h
  case h_3 d =>
    cases d with
    | finite negative coefficient exponent => exact absurd ⟨_, rfl, Exact.isFinite_ofDigits ..⟩ h
    | _ => exact (Except.ok.inj hcs).symm
  case h_4 x =>
    rw [← Except.ok.inj hcs]
    exact encodeBinary64_of_not_finite h
  case h_5 hbool hint hdecimal hfloat =>
    have hnumber : numberOf? v = (Numeral.readBinary64 (strip v.display)).bind Exact.ofBinary64? := by
      unfold numberOf?
      split
      · exact absurd rfl (hbool _)
      · exact absurd rfl (hint _)
      · exact absurd rfl (hdecimal _)
      · exact absurd rfl (hfloat _)
      · rfl
    rw [hnumber] at h
    unfold encodeNumeral at hcs
    split at hcs
    · split at hcs
      case h_1 x hread =>
        rw [hread] at h
        rw [← Except.ok.inj hcs]
        exact encodeBinary64_of_not_finite h
      case h_2 => exact (Except.ok.inj hcs).symm
    · contradiction
    · exact (Except.ok.inj hcs).symm

theorem encodeBoolean_of_not_isTruth {v : Value} {cs : List Char} (h : ¬IsTruth v)
    (hcs : encodeBoolean v = .ok cs) : cs = "false".toList := by
  unfold encodeBoolean at hcs
  split at hcs
  case h_1 b => exact absurd trivial h
  case h_2 s =>
    have hword : (lowercase (strip s.toList) == "true".toList || lowercase (strip s.toList) == ['1']) = false := by
      rw [IsTruth, not_or] at h
      rw [Bool.or_eq_false_iff, beq_eq_false_iff_ne, beq_eq_false_iff_ne]
      exact h
    rw [← Except.ok.inj hcs, hword]
    rfl
  case h_3 s hbool htext =>
    split at hcs
    case isTrue =>
      obtain ⟨b, hb, rfl⟩ := Fault.exists_of_map_eq_ok hcs
      cases b with
      | false => rfl
      | true =>
        have hone : s.toExact? = some (.ofInt 1) := Scalar.toExact?_of_same_one (Scalar.same_of_compare hb)
        refine absurd ?_ h
        unfold IsTruth
        split
        · trivial
        · rename_i hs
          exact absurd (Value.scalar.inj hs) (htext _)
        · rename_i hs
          rwa [← Value.scalar.inj hs]
        · rename_i hscalar
          exact absurd rfl (hscalar _)
    case isFalse => exact (Except.ok.inj hcs).symm
  case h_4 => exact (Except.ok.inj hcs).symm

theorem encodeDate_of_not_isSome {v : Value} {cs : List Char} (h : ¬(toTimestamp v).isSome = true)
    (hcs : encodeDate v = .ok cs) : cs = ['\'', '\''] := by
  rw [Option.not_isSome_iff_eq_none] at h
  rw [encodeDate, h] at hcs
  exact (Except.ok.inj hcs).symm

/-- **A value that its type cannot express is written as the fallback of the type.** -/
theorem eq_fallback_of_literalText {v : Value} {type : Option ColumnType} {literal : JsonText}
    (h : ¬IsExpressible v type) (hliteral : literalText v type = .ok literal) : literal = fallback type := by
  match type with
  | some .number =>
    obtain ⟨cs, hcs, rfl⟩ := Fault.exists_of_map_eq_ok hliteral
    rw [encodeNumber_of_not_expressible h hcs]
    rfl
  | some .boolean =>
    obtain ⟨cs, hcs, rfl⟩ := Fault.exists_of_map_eq_ok hliteral
    rw [encodeBoolean_of_not_isTruth h hcs]
    rfl
  | some .date =>
    obtain ⟨cs, hcs, rfl⟩ := Fault.exists_of_map_eq_ok hliteral
    rw [encodeDate_of_not_isSome h hcs]
    rfl
  | some .string | some .object | none => exact absurd trivial h

end Query

end ODataBrowser
