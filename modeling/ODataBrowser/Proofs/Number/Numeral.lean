import Mathlib.Data.List.Induction
import ODataBrowser.Proofs.Number.Integer
import ODataBrowser.Proofs.Query.Number
import ODataBrowser.Proofs.Text.Blank

/-!
# Reading back numerals

A row of digits is read as the number with these digits (`Numeral.readBinary64_of_isDigits`). Up to `2 ^ 53` a number
that is written and read as a double stays the same (`Numeral.truncate?_of_ofNat`).
-/

namespace ODataBrowser

open Query Text

/-! ## Digits -/

/-- What holds of the ten digits holds of every digit. -/
theorem Text.forall_of_isDigit {P : Char → Prop} (h : ∀ d < 10, P (Nat.digitChar d)) (c : Char)
    (hc : c.isDigit = true) : P c := by
  have hrange : 48 ≤ c.toNat ∧ c.toNat ≤ 57 := by
    simpa [Char.isDigit, UInt32.le_iff_toNat_le] using hc
  have hdigit : Nat.digitChar (c.toNat - 48) = c := by
    apply Char.toNat_inj.1
    rw [Nat.toNat_digitChar_of_lt_ten (by omega)]
    omega
  exact hdigit ▸ h (c.toNat - 48) (by omega)

theorem Text.digit?_of_isDigit : ∀ c : Char, c.isDigit = true → digit? c = some (c.toNat - '0'.toNat) :=
  forall_of_isDigit (by decide)

theorem Text.isBlank_of_isDigit : ∀ c : Char, c.isDigit = true → isBlank c = false :=
  forall_of_isDigit (by decide)

theorem Text.toNat_of_isDigit : ∀ c : Char, c.isDigit = true → 48 ≤ c.toNat ∧ c.toNat < 58 :=
  forall_of_isDigit (by decide)

/-- There is no white space around a row of digits. -/
theorem Text.strip_of_isDigits {cs : List Char} (h : IsDigits cs) : strip cs = cs :=
  strip_of_forall_not fun c hc => isBlank_of_isDigit c (h.2 c hc)

namespace Numeral

theorem ofDigitChars_concat (ds : List Char) (d : Char) :
    Nat.ofDigitChars 10 (ds ++ [d]) 0 = 10 * Nat.ofDigitChars 10 ds 0 + (d.toNat - 48) := by
  rw [Nat.ofDigitChars_append, Nat.ofDigitChars_cons, Nat.ofDigitChars_nil]
  rfl

theorem ofDigitChars_lt {digits : List Char} (h : ∀ c ∈ digits, c.isDigit = true) :
    Nat.ofDigitChars 10 digits 0 < 10 ^ digits.length := by
  induction digits using List.reverseRecOn with
  | nil => exact Nat.one_pos
  | append_singleton ds d ih =>
    rw [List.forall_mem_append, List.forall_mem_singleton] at h
    have hd := Text.toNat_of_isDigit d h.2
    have hds := ih h.1
    rw [ofDigitChars_concat, List.length_append, List.length_singleton, Nat.pow_succ]
    omega

/-- Rows of as many digits are the same if they are the same number. -/
theorem eq_of_ofDigitChars_eq {ds es : List Char} (hds : ∀ c ∈ ds, c.isDigit = true)
    (hes : ∀ c ∈ es, c.isDigit = true) (hlength : ds.length = es.length)
    (h : Nat.ofDigitChars 10 ds 0 = Nat.ofDigitChars 10 es 0) : ds = es := by
  induction ds using List.reverseRecOn generalizing es with
  | nil => exact (List.length_eq_zero_iff.1 hlength.symm).symm
  | append_singleton ds d ih =>
    obtain ⟨es, e, rfl⟩ := (List.eq_nil_or_concat' es).resolve_left fun hnil => by simp [hnil] at hlength
    rw [List.forall_mem_append, List.forall_mem_singleton] at hds hes
    rw [ofDigitChars_concat, ofDigitChars_concat] at h
    have hd := Text.toNat_of_isDigit d hds.2
    have he := Text.toNat_of_isDigit e hes.2
    have hlast : d = e := Char.toNat_inj.1 (by omega)
    have hinit : ds = es := ih hds.1 hes.1 (by simpa using hlength) (by omega)
    rw [hinit, hlast]

theorem isPadding_of_isDigit : ∀ c : Char, c.isDigit = true → isPadding c = false :=
  forall_of_isDigit (by decide)

theorem isExponentMark_of_isDigit : ∀ c : Char, c.isDigit = true → isExponentMark c = false :=
  forall_of_isDigit (by decide)

theorem digitRowFrom_of_isDigit {cs : List Char} (h : ∀ c ∈ cs, c.isDigit = true) :
    digitRowFrom false cs = some (cs.map fun c => c.toNat - '0'.toNat) := by
  induction cs with
  | nil => rfl
  | cons c cs ih =>
    rw [List.forall_mem_cons] at h
    rw [digitRowFrom, digit?_of_isDigit c h.1, ih h.2]
    rfl

theorem digitRow_of_isDigits {cs : List Char} (h : IsDigits cs) :
    digitRow cs = some (cs.map fun c => c.toNat - '0'.toNat) := by
  obtain ⟨hne, hdigits⟩ := h
  cases cs with
  | nil => contradiction
  | cons c cs =>
    rw [List.forall_mem_cons] at hdigits
    rw [digitRow, digitRowFrom, digit?_of_isDigit c hdigits.1, digitRowFrom_of_isDigit hdigits.2]
    rfl

theorem natOfValues_map (cs : List Char) :
    natOfValues (cs.map fun c => c.toNat - '0'.toNat) = Nat.ofDigitChars 10 cs 0 := by
  rw [natOfValues, List.foldl_map, Nat.ofDigitChars_eq_foldl]

theorem unpadded_of_isDigits {cs : List Char} (h : IsDigits cs) : unpadded cs = cs := by
  have hpadding : ∀ c ∈ cs, isPadding c = false := fun c hc => isPadding_of_isDigit c (h.2 c hc)
  rw [unpadded, dropWhile_of_forall_not hpadding, dropEndWhile_of_forall_not hpadding]

theorem readUnsigned_of_isDigits {cs : List Char} (h : IsDigits cs) :
    readUnsigned cs = some (cs.map fun c => c.toNat - '0'.toNat, 0) := by
  have hmark : ∀ c ∈ cs, (!isExponentMark c) = true := fun c hc => by
    rw [isExponentMark_of_isDigit c (h.2 c hc)]
    rfl
  have hpoint : ∀ c ∈ cs, (c != '.') = true := fun c hc =>
    forall_of_isDigit (P := fun c => (c != '.') = true) (by decide) c (h.2 c hc)
  have hempty : cs.isEmpty = false := by simpa using h.1
  unfold readUnsigned
  dsimp only
  rw [List.takeWhile_eq_self_iff.2 hmark, List.dropWhile_eq_nil_iff.2 hmark,
    List.takeWhile_eq_self_iff.2 hpoint, List.dropWhile_eq_nil_iff.2 hpoint]
  simp [readExponent, optionalRow, hempty, digitRow_of_isDigits h, h.1]

/-- A row of digits is none of the words for numbers. -/
theorem asciiLower_ne_of_isDigits {cs : List Char} (h : IsDigits cs) {c : Char} (hc : c.isDigit = false)
    (rest : List Char) : asciiLower cs ≠ c :: rest := by
  obtain ⟨hne, hdigits⟩ := h
  obtain ⟨d, ds, rfl⟩ := List.exists_cons_of_ne_nil hne
  have hd : d.isDigit = true := hdigits d List.mem_cons_self
  have hlower : d.toLower.isDigit = true :=
    forall_of_isDigit (P := fun d => d.toLower.isDigit = true) (by decide) d hd
  intro heq
  rw [(List.cons.inj heq).1, hc] at hlower
  contradiction

/-- A sign and a row of digits are read as the number with this sign and these digits. -/
theorem readBinary64_of_splitSign {cs digits : List Char} {negative : Bool}
    (hsign : splitSign (unpadded cs) = (negative, digits)) (h : IsDigits digits) :
    readBinary64 cs = some (.ofDecimal negative (Nat.ofDigitChars 10 digits 0) 0) := by
  have hinfinity : ¬(asciiLower digits = ['i', 'n', 'f'] ∨
      asciiLower digits = ['i', 'n', 'f', 'i', 'n', 'i', 't', 'y']) :=
    not_or.2 ⟨asciiLower_ne_of_isDigits h rfl _, asciiLower_ne_of_isDigits h rfl _⟩
  have hnan : asciiLower digits ≠ ['n', 'a', 'n'] := asciiLower_ne_of_isDigits h rfl _
  unfold readBinary64
  rw [hsign]
  dsimp only
  rw [if_neg hinfinity, if_neg hnan, readUnsigned_of_isDigits h, Option.map_some, natOfValues_map]

/-- A row of digits is read as the number with these digits. -/
theorem readBinary64_of_isDigits {cs : List Char} (h : IsDigits cs) :
    readBinary64 cs = some (.ofDecimal false (Nat.ofDigitChars 10 cs 0) 0) := by
  have hsign : splitSign (unpadded cs) = (false, cs) := by
    simpa [unpadded_of_isDigits h] using splitSign_of_isDigits h []
  exact readBinary64_of_splitSign hsign h

/-- The numeral of an integer is read as the double of its sign and its digits. -/
theorem readBinary64_ofInt (n : Int) :
    readBinary64 (strip (ofInt n)) = some (.ofDecimal (n < 0) n.natAbs 0) := by
  have hvalue (m : Nat) : Nat.ofDigitChars 10 (ofNat m) 0 = m := Nat.ofDigitChars_ten_toDigits
  cases n with
  | ofNat m =>
    have hdigits : IsDigits (ofNat m) := isDigits_toDigits m
    rw [ofInt, strip_of_isDigits hdigits, readBinary64_of_isDigits hdigits, hvalue]
    rfl
  | negSucc m =>
    have hdigits : IsDigits (ofNat (m + 1)) := isDigits_toDigits (m + 1)
    have hkept {p : Char → Bool} (hminus : p '-' = false) (hp : ∀ c, c.isDigit = true → p c = false) :
        ∀ c ∈ '-' :: ofNat (m + 1), p c = false :=
      List.forall_mem_cons.2 ⟨hminus, fun c hc => hp c (hdigits.2 c hc)⟩
    have hpadding := hkept (p := isPadding) (by decide) isPadding_of_isDigit
    have hstrip : strip ('-' :: ofNat (m + 1)) = '-' :: ofNat (m + 1) :=
      strip_of_forall_not (hkept (by decide) isBlank_of_isDigit)
    have hsign : splitSign (unpadded ('-' :: ofNat (m + 1))) = (true, ofNat (m + 1)) := by
      rw [unpadded, dropWhile_of_forall_not hpadding, dropEndWhile_of_forall_not hpadding]
      rfl
    rw [ofInt, hstrip, readBinary64_of_splitSign hsign hdigits, hvalue, decide_eq_true (Int.negSucc_lt_zero m)]
    rfl

/-- The numeral of a natural number up to `2 ^ 53` is read as a double whose integer part is the number. -/
theorem truncate?_of_ofNat {n : Nat} (h : n ≤ 2 ^ 53) :
    (readBinary64 (strip (ofNat n))).bind Binary64.truncate? = some (n : Int) := by
  have hdigits : IsDigits (ofNat n) := isDigits_toDigits n
  have hvalue : Nat.ofDigitChars 10 (ofNat n) 0 = n := Nat.ofDigitChars_ten_toDigits
  have hcount : Binary64.digitCount n ≤ 16 :=
    (Nat.length_toDigits_le_iff (by decide) (by decide)).2 (by omega)
  rw [strip_of_isDigits hdigits, readBinary64_of_isDigits hdigits, hvalue]
  by_cases hzero : n = 0
  · subst hzero
    decide +kernel
  · have hdecimal : Binary64.ofDecimal false n 0 = .ofRatio false n 1 := by
      unfold Binary64.ofDecimal
      rw [if_neg hzero, if_neg (by omega), if_neg (by omega), if_pos le_rfl]
      exact congrArg (Binary64.ofRatio false · 1) (Nat.mul_one n)
    rw [hdecimal]
    exact Binary64.truncate?_ofRatio h

theorem ofNat_injective : Function.Injective ofNat := by
  intro m n h
  have hvalue := congrArg (Nat.ofDigitChars 10 · 0) h
  simpa [ofNat] using hvalue

/-- A numeral says which integer it is. -/
theorem ofInt_injective : Function.Injective ofInt := by
  have hsign {m n : Nat} : ofInt (.ofNat m) ≠ ofInt (.negSucc n) := by
    intro h
    have hmem : '-' ∈ ofNat m := by
      rw [show ofNat m = '-' :: ofNat (n + 1) from h]
      exact List.mem_cons_self
    exact absurd ((isDigits_toDigits m).2 _ hmem) (by decide)
  intro a b h
  cases a with
  | ofNat m =>
    cases b with
    | ofNat n => exact congrArg Int.ofNat (ofNat_injective h)
    | negSucc n => exact absurd h hsign
  | negSucc m =>
    cases b with
    | ofNat n => exact absurd h.symm hsign
    | negSucc n => exact congrArg Int.negSucc (Nat.succ_injective (ofNat_injective (List.cons.inj h).2))

/-! ## Widths -/

theorem isDigits_padded (width n : Nat) : IsDigits (padded width n) :=
  isDigits_zeros_append (isDigits_toDigits n) _

theorem ofDigitChars_padded (width n : Nat) : Nat.ofDigitChars 10 (padded width n) 0 = n := by
  rw [padded, Nat.ofDigitChars_append, Nat.ofDigitChars_replicate_zero, Nat.mul_zero]
  exact Nat.ofDigitChars_ten_toDigits

theorem length_padded {width n : Nat} (hwidth : 0 < width) (h : n < 10 ^ width) : (padded width n).length = width := by
  have hle : (ofNat n).length ≤ width := (Nat.length_toDigits_le_iff (by decide) hwidth).2 h
  rw [padded, List.length_append, List.length_replicate, Nat.sub_add_cancel hle]

end Numeral

end ODataBrowser
