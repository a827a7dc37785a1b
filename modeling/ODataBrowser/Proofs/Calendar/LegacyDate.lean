import ODataBrowser.Calendar.LegacyDate
import ODataBrowser.Proofs.Calendar.Ordinal
import ODataBrowser.Proofs.Number.Numeral

/-!
# Reading legacy dates

A written legacy date is a count of milliseconds in digits of any script, which may have a sign before it and an offset
behind it, between the marks `/Date(` and `)/` and white space (`WrittenLegacyDate`). These are
taken apart (`LegacyDate.readParts_text`), and no other texts are (`LegacyDate.exists_of_readParts`).
-/

namespace ODataBrowser

open Text

/-! ## Written legacy dates -/

/-- The offset behind a count: a sign, two digits for the hours and two for the minutes. -/
structure LegacyOffset where
  isBehind : Bool
  hours : List Char
  minutes : List Char
  lengths : hours.length = 2 ∧ minutes.length = 2
  isDigit : ∀ c ∈ hours ++ minutes, Text.isDigit c = true

/-- The text of an offset. -/
def LegacyOffset.text (z : LegacyOffset) : List Char :=
  (if z.isBehind then '-' else '+') :: (z.hours ++ z.minutes)

/-- The sign and the minutes of an offset. -/
def LegacyOffset.value (z : LegacyOffset) : Bool × Nat :=
  (z.isBehind, natOfDigits z.hours * 60 + natOfDigits z.minutes)

/-- A count of milliseconds from the epoch, with or without an offset, as it is written. -/
structure WrittenLegacyDate where
  /-- The white space before and after the date. -/
  before : List Char
  after : List Char
  negative : Bool
  digits : List Char
  offset : Option LegacyOffset
  isBlank : (∀ c ∈ before, Text.isBlank c = true) ∧ ∀ c ∈ after, Text.isBlank c = true
  isDigit : digits ≠ [] ∧ ∀ c ∈ digits, Text.isDigit c = true

namespace WrittenLegacyDate

/-- The count and the offset as they are written. -/
def fields (w : WrittenLegacyDate) : List Char :=
  (if w.negative then ['-'] else []) ++ (w.digits ++ (w.offset.elim [] LegacyOffset.text ++ [')']))

/-- The text of a legacy date. -/
def text (w : WrittenLegacyDate) : List Char :=
  w.before ++ "/Date(".toList ++ (w.fields ++ '/' :: w.after)

/-- The same date without its offset. -/
def bare (w : WrittenLegacyDate) : WrittenLegacyDate :=
  { w with offset := none }

/-- The milliseconds that are counted. -/
def millis (w : WrittenLegacyDate) : Int :=
  if w.negative then -(natOfDigits w.digits : Int) else natOfDigits w.digits

/-- What a legacy date is made of. -/
def parts (w : WrittenLegacyDate) : LegacyDate.Parts :=
  ⟨w.negative, w.digits, w.offset.map LegacyOffset.value⟩

end WrittenLegacyDate

namespace LegacyDate

/-! ## Taking a date apart -/

theorem readSuffix_text (offset : Option LegacyOffset) :
    readSuffix (offset.elim [] LegacyOffset.text ++ [')', '/']) = some (offset.map LegacyOffset.value) := by
  cases offset with
  | none => rfl
  | some z =>
    obtain ⟨behind, hours, minutes, ⟨hhours, hminutes⟩, hdigits⟩ := z
    obtain ⟨h₁, h₂, rfl⟩ := List.length_eq_two.1 hhours
    obtain ⟨m₁, m₂, rfl⟩ := List.length_eq_two.1 hminutes
    have hall : [h₁, h₂, m₁, m₂].all isDigit = true := List.all_eq_true.2 hdigits
    cases behind <;> simp [LegacyOffset.text, LegacyOffset.value, readSuffix, hall]

theorem exists_of_readSuffix {cs : List Char} {value : Option (Bool × Nat)} (h : readSuffix cs = some value) :
    ∃ offset : Option LegacyOffset, cs = offset.elim [] LegacyOffset.text ++ [')', '/'] ∧
      value = offset.map LegacyOffset.value := by
  unfold readSuffix at h
  split at h
  case h_1 => exact ⟨none, rfl, (Option.some.inj h).symm⟩
  case h_2 sign h₁ h₂ m₁ m₂ =>
    split at h
    case isFalse => contradiction
    case isTrue hsuffix =>
      simp only [Bool.and_eq_true, Bool.or_eq_true, beq_iff_eq, List.all_eq_true] at hsuffix
      refine ⟨some ⟨sign == '-', [h₁, h₂], [m₁, m₂], ⟨rfl, rfl⟩, hsuffix.2⟩, ?_, (Option.some.inj h).symm⟩
      rcases hsuffix.1 with rfl | rfl <;> rfl
  case h_3 => contradiction

theorem isDigit_of_mem_head?_suffix (offset : Option LegacyOffset) :
    ∀ c ∈ (offset.elim [] LegacyOffset.text ++ [')', '/']).head?, isDigit c = false := by
  cases offset with
  | none =>
    have hmark : isDigit ')' = false := by decide
    simpa using hmark
  | some z =>
    have hmark : isDigit (if z.isBehind then '-' else '+') = false := by cases z.isBehind <;> decide
    simpa [LegacyOffset.text] using hmark

/-- What stands between the marks is read by its parts. -/
theorem readParts_of_strip {cs digits suffix : List Char} {negative : Bool} (hdigits : digits ≠ [])
    (hdigit : ∀ c ∈ digits, isDigit c = true) (hsuffix : ∀ c ∈ suffix.head?, isDigit c = false)
    (h : strip cs = "/Date(".toList ++ ((if negative then ['-'] else []) ++ (digits ++ suffix))) :
    readParts cs = (readSuffix suffix).map fun offset => ⟨negative, digits, offset⟩ := by
  obtain ⟨d, ds, rfl⟩ := List.exists_cons_of_ne_nil hdigits
  have hsplit := Query.splitWhile_append hdigit hsuffix
  rw [splitWhile, Prod.mk.injEq] at hsplit
  have hd : d ≠ '-' := by
    rintro rfl
    exact absurd (hdigit '-' List.mem_cons_self) (by decide)
  rw [List.cons_append] at hsplit
  unfold readParts
  rw [h]
  cases negative <;> simp [hd, hsplit]

theorem strip_text (w : WrittenLegacyDate) : strip w.text = "/Date(".toList ++ (w.fields ++ ['/']) := by
  have hslash : isBlank '/' = false := by decide
  have hstrip := strip_append w.isBlank.1 w.isBlank.2 hslash hslash ("Date(".toList ++ w.fields)
  rw [List.append_assoc] at hstrip
  rw [WrittenLegacyDate.text, List.append_assoc]
  exact hstrip.trans (congrArg _ (List.append_assoc _ _ _))

/-- A written legacy date is taken apart as it is written. -/
theorem readParts_text (w : WrittenLegacyDate) : readParts w.text = some w.parts := by
  have hfields : w.fields ++ ['/'] =
      (if w.negative then ['-'] else []) ++ (w.digits ++ (w.offset.elim [] LegacyOffset.text ++ [')', '/'])) := by
    simp [WrittenLegacyDate.fields]
  have hstrip := strip_text w
  rw [hfields] at hstrip
  rw [readParts_of_strip w.isDigit.1 w.isDigit.2 (isDigit_of_mem_head?_suffix w.offset) hstrip, readSuffix_text]
  rfl

/-- What is taken apart is a written legacy date. -/
theorem exists_of_readParts {cs : List Char} {p : Parts} (h : readParts cs = some p) :
    ∃ w : WrittenLegacyDate, cs = w.text ∧ p = w.parts := by
  unfold readParts at h
  split at h
  case h_2 => contradiction
  case h_1 rest hstrip =>
    split at h
    case h_1 negative tail hsign =>
      have hrest : rest = (if negative then ['-'] else []) ++ tail := by
        split at hsign
        all_goals
          obtain ⟨rfl, rfl⟩ := Prod.mk.inj hsign
          rfl
      dsimp only at h
      split at h
      case isTrue => contradiction
      case isFalse hdigits =>
        obtain ⟨value, hvalue, rfl⟩ := Option.map_eq_some_iff.1 h
        obtain ⟨offset, hoffset, rfl⟩ := exists_of_readSuffix hvalue
        obtain ⟨before, after, hsplit, hblank⟩ := exists_eq_append_strip cs
        refine ⟨⟨before, after, negative, tail.takeWhile isDigit, offset, hblank, by simpa using hdigits,
          fun c hc => List.mem_takeWhile_imp hc⟩, ?_, rfl⟩
        have htail := (List.takeWhile_append_dropWhile (p := isDigit) (l := tail)).symm
        rw [hoffset] at htail
        rw [hsplit, hstrip, hrest.trans (congrArg _ htail)]
        simp [WrittenLegacyDate.text, WrittenLegacyDate.fields]

/-! ## The count and the offset -/

theorem natOfDigitsFrom_of_isDigit (acc : Nat) {cs : List Char} (h : ∀ c ∈ cs, c.isDigit = true) :
    natOfDigitsFrom acc cs = Nat.ofDigitChars 10 cs acc := by
  induction cs generalizing acc with
  | nil => rfl
  | cons c cs ih =>
    rw [List.forall_mem_cons] at h
    rw [natOfDigitsFrom, digit?_of_isDigit c h.1, Nat.ofDigitChars_cons, Option.getD_some, ih _ h.2]

theorem timestamp?_parts (w : WrittenLegacyDate) :
    w.parts.timestamp? = if Numeral.maxDigits < w.digits.length then none else
      (Epoch.ofIntMillis? w.millis).bind (·.inZone? w.parts.offsetMicros) :=
  rfl

/-- An offset is a number of minutes. -/
theorem exists_offsetMicros_eq (p : Parts) : ∃ minutes, p.offsetMicros = 60000000 * minutes := by
  unfold Parts.offsetMicros
  split
  case h_1 => exact ⟨0, rfl⟩
  case h_2 negative minutes _ =>
    cases negative with
    | true => exact ⟨-minutes, by simp only [if_true]; omega⟩
    | false => exact ⟨minutes, by simp only [Bool.false_eq_true, if_false]; omega⟩

end LegacyDate

/-! ## Dates of a count -/

/-- The legacy date of a count of milliseconds, without an offset. -/
def WrittenLegacyDate.ofMillis (millis : Int) : WrittenLegacyDate where
  before := []
  after := []
  negative := millis < 0
  digits := Numeral.ofNat millis.natAbs
  offset := none
  isBlank := ⟨List.forall_mem_nil _, List.forall_mem_nil _⟩
  isDigit := by
    have hdigits := Query.isDigits_toDigits millis.natAbs
    have hany : ∀ c : Char, c.isDigit = true → Text.isDigit c = true := forall_of_isDigit (by decide)
    exact ⟨hdigits.1, fun c hc => hany c (hdigits.2 c hc)⟩

namespace WrittenLegacyDate

theorem text_ofMillis (millis : Int) :
    (ofMillis millis).text = "/Date(".toList ++ (Numeral.ofInt millis ++ ")/".toList) := by
  have hnumeral : (if millis < 0 then ['-'] else []) ++ Numeral.ofNat millis.natAbs = Numeral.ofInt millis := by
    cases millis with
    | ofNat n => rfl
    | negSucc n =>
      rw [if_pos (Int.negSucc_lt_zero n)]
      rfl
  rw [← hnumeral]
  simp [ofMillis, text, fields]

theorem millis_ofMillis (millis : Int) : (ofMillis millis).millis = millis := by
  have hvalue : natOfDigits (Numeral.ofNat millis.natAbs) = millis.natAbs :=
    (LegacyDate.natOfDigitsFrom_of_isDigit 0 (Query.isDigits_toDigits millis.natAbs).2).trans
      Nat.ofDigitChars_ten_toDigits
  simp only [WrittenLegacyDate.millis, ofMillis, hvalue, decide_eq_true_eq]
  split <;> omega

end WrittenLegacyDate

end ODataBrowser
