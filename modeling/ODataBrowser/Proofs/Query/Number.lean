import ODataBrowser.Number.Shortest
import ODataBrowser.Proofs.Query.Reader

/-!
# The texts of numbers

What integers, doubles and decimals are written as in a query is a number of the filter grammar
(`isNumber_ofInt`, `isNumber_encodeBinary64`, `isNumber_of_encodeDecimal`).
-/

namespace ODataBrowser.Query

/-! ## Rows of digits -/

theorem isDigits_toDigits (n : Nat) : IsDigits (Nat.toDigits 10 n) :=
  ⟨Nat.toDigits_ne_nil, fun _ hc => Nat.isDigit_of_mem_toDigits (by decide) (by decide) hc⟩

theorem isDigits_zero : IsDigits ['0'] :=
  isDigits_toDigits 0

/-- Zeros before or behind a row of digits lengthen it. -/
theorem isDigits_zeros_append {cs : List Char} (h : IsDigits cs) (n : Nat) :
    IsDigits (List.replicate n '0' ++ cs) := by
  refine ⟨by simp [h.1], List.forall_mem_append.2 ⟨fun c hc => ?_, h.2⟩⟩
  rw [List.eq_of_mem_replicate hc]
  rfl

theorem isDigits_append_zeros {cs : List Char} (h : IsDigits cs) (n : Nat) :
    IsDigits (cs ++ List.replicate n '0') := by
  refine ⟨by simp [h.1], List.forall_mem_append.2 ⟨h.2, fun c hc => ?_⟩⟩
  rw [List.eq_of_mem_replicate hc]
  rfl

theorem isDigits_take {cs : List Char} (h : IsDigits cs) {n : Nat} (hn : 0 < n) : IsDigits (cs.take n) :=
  ⟨by simp [h.1, hn.ne'], fun c hc => h.2 c (List.mem_of_mem_take hc)⟩

theorem isDigits_drop {cs : List Char} (h : IsDigits cs) {n : Nat} (hn : cs.drop n ≠ []) :
    IsDigits (cs.drop n) :=
  ⟨hn, fun c hc => h.2 c (List.mem_of_mem_drop hc)⟩

theorem splitSign_of_isDigits {cs : List Char} (h : IsDigits cs) (rest : List Char) :
    Numeral.splitSign (cs ++ rest) = (false, cs ++ rest) := by
  obtain ⟨hne, hdigits⟩ := h
  cases cs with
  | nil => contradiction
  | cons c cs =>
    have hc := hdigits c List.mem_cons_self
    rw [List.cons_append, Numeral.splitSign]
    · rintro _ h
      exact absurd hc (by rw [(List.cons.inj h).1]; decide)
    · rintro _ h
      exact absurd hc (by rw [(List.cons.inj h).1]; decide)

/-! ## Putting numbers together -/

theorem isExponent_cons {mark : Char} {cs : List Char} (hmark : Numeral.isExponentMark mark = true)
    (hcs : IsDigits (Numeral.splitSign cs).2) : isExponent (mark :: cs) = true := by
  have h : behindDigits? ((Numeral.splitSign cs).2 ++ []) = some [] :=
    behindDigits?_append hcs (by simp)
  rw [List.append_nil] at h
  simp [isExponent, hmark, h]

/-- An exponent starts with neither a digit nor a point. -/
theorem head?_of_isExponent {cs : List Char} (h : isExponent cs = true) :
    ∀ c ∈ cs.head?, c.isDigit = false ∧ c ≠ '.' := by
  cases cs with
  | nil => simp
  | cons mark cs =>
    rw [isExponent, Bool.and_eq_true, Numeral.isExponentMark, Bool.or_eq_true, beq_iff_eq,
      beq_iff_eq] at h
    rintro c hc
    rw [← Option.some.inj hc]
    rcases h.1 with rfl | rfl <;> decide

theorem isUnsigned_append {whole exponent : List Char} (hwhole : IsDigits whole)
    (hexponent : isExponent exponent = true) : isUnsigned (whole ++ exponent) = true := by
  have hhead := head?_of_isExponent hexponent
  rw [isUnsigned, behindDigits?_append hwhole fun c hc => (hhead c hc).1]
  split
  · contradiction
  · rename_i h
    exact absurd rfl (hhead '.' (by rw [Option.some.inj h]; rfl)).2
  · rename_i h
    rwa [← Option.some.inj h]

theorem isUnsigned_point {whole fraction exponent : List Char} (hwhole : IsDigits whole)
    (hfraction : IsDigits fraction) (hexponent : isExponent exponent = true) :
    isUnsigned (whole ++ '.' :: (fraction ++ exponent)) = true := by
  have hhead := head?_of_isExponent hexponent
  rw [isUnsigned, behindDigits?_append hwhole (by simp)]
  simp only [behindDigits?_append hfraction fun c hc => (hhead c hc).1, Option.any_some, hexponent]

/-- A sign before a number leaves it a number. -/
theorem isNumber_signed (negative : Bool) {cs : List Char} (h : isUnsigned cs = true) :
    isNumber ((if negative then ['-'] else []) ++ cs) = true := by
  cases negative with
  | true => exact h
  | false =>
    cases hcs : behindDigits? cs with
    | none =>
      simp [isUnsigned, hcs] at h
    | some rest =>
      obtain ⟨digits, hdigits, rfl⟩ := exists_of_behindDigits? hcs
      change isUnsigned (Numeral.splitSign (digits ++ rest)).2 = true
      rw [splitSign_of_isDigits hdigits]
      exact h

/-! ## Integers -/

theorem isUnsigned_of_isDigits {cs : List Char} (h : IsDigits cs) : isUnsigned cs = true := by
  rw [← List.append_nil cs]
  exact isUnsigned_append h rfl

theorem isNumber_ofInt (n : Int) : isNumber (Numeral.ofInt n) = true := by
  cases n with
  | ofNat n => exact isNumber_signed false (isUnsigned_of_isDigits (isDigits_toDigits n))
  | negSucc n => exact isNumber_signed true (isUnsigned_of_isDigits (isDigits_toDigits (n + 1)))

/-! ## Doubles -/

/-- A number other than zero has digits left without the zeros at its end. -/
theorem isDigits_significant {n : Nat} (h : n ≠ 0) :
    IsDigits (((Nat.toDigits 10 n).reverse.dropWhile (· == '0')).reverse) := by
  have hall := (isDigits_toDigits n).2
  constructor
  · intro hnil
    rw [List.reverse_eq_nil_iff, List.dropWhile_eq_nil_iff] at hnil
    have hzeros : Nat.toDigits 10 n = List.replicate (Nat.toDigits 10 n).length '0' :=
      List.eq_replicate_iff.2 ⟨rfl, fun c hc => by simpa using hnil c (List.mem_reverse.2 hc)⟩
    have hn := @Nat.ofDigitChars_ten_toDigits n
    rw [hzeros, Nat.ofDigitChars_replicate_zero, Nat.mul_zero] at hn
    exact h hn.symm
  · intro c hc
    have hc := (List.dropWhile_sublist (· == '0')).mem (List.mem_reverse.1 hc)
    exact hall c (List.mem_reverse.1 hc)

/-- A decimal that stands for a double reads back as it. -/
theorem ofDecimal_of_withDigits? {m count : Nat} {e : Int} {decimal : Binary64.Notation}
    (h : Binary64.withDigits? m e count = some decimal) :
    Binary64.ofDecimal false decimal.digits decimal.exponent = .finite false m e := by
  have hchoice {near far : Nat} {unit : Int}
      (h : (if Binary64.ofDecimal false near unit == .finite false m e then
          some (⟨near, unit⟩ : Binary64.Notation)
        else if Binary64.ofDecimal false far unit == .finite false m e then some ⟨far, unit⟩
        else none) = some decimal) :
      Binary64.ofDecimal false decimal.digits decimal.exponent = .finite false m e := by
    split at h
    · rename_i hnear
      rw [← Option.some.inj h]
      exact beq_iff_eq.1 hnear
    · split at h
      · rename_i hfar
        rw [← Option.some.inj h]
        exact beq_iff_eq.1 hfar
      · contradiction
  exact hchoice h

/-- The shortest decimal of a double other than zero is not zero. -/
theorem digits_shortest_ne_zero {m : Nat} (hm : m ≠ 0) (e : Int) :
    (Binary64.shortest m e).digits ≠ 0 := by
  unfold Binary64.shortest
  cases hfound : (List.range 17).findSome? fun i => Binary64.withDigits? m e (i + 1) with
  | none => exact hm
  | some decimal =>
    obtain ⟨i, -, hi⟩ := List.exists_of_findSome?_eq_some hfound
    have hread := ofDecimal_of_withDigits? hi
    intro hzero
    rw [Option.getD_some] at hzero
    rw [hzero, Binary64.ofDecimal, if_pos rfl] at hread
    injection hread with _ hread
    exact hm hread.symm

theorem isUnsigned_positiveText {m : Nat} (hm : m ≠ 0) (e : Int) :
    isUnsigned (Binary64.positiveText m e) = true := by
  have hdigits := isDigits_significant (digits_shortest_ne_zero hm e)
  unfold Binary64.positiveText
  rw [if_neg hm]
  dsimp only
  generalize Binary64.shortest m e = decimal at hdigits ⊢
  generalize ((Nat.toDigits 10 decimal.digits).reverse.dropWhile (· == '0')).reverse = digits
    at hdigits ⊢
  generalize decimal.exponent + ((Nat.toDigits 10 decimal.digits).length : Int) = point
  split
  · split
    · -- The point stands before the digits.
      have h := isUnsigned_point isDigits_zero (isDigits_zeros_append hdigits (-point).toNat)
        (show isExponent [] = true from rfl)
      rwa [List.append_nil] at h
    · -- The point stands among or behind the digits.
      rename_i hpoint
      have hwhole : IsDigits (digits.take point.toNat) := isDigits_take hdigits (by omega)
      have hfraction : IsDigits
          (if (digits.drop point.toNat).isEmpty then ['0'] else digits.drop point.toNat) := by
        split
        · exact isDigits_zero
        · rename_i hne
          exact isDigits_drop hdigits (by simpa using hne)
      have h := isUnsigned_point
        (isDigits_append_zeros hwhole (point.toNat - (digits.take point.toNat).length)) hfraction
        (show isExponent [] = true from rfl)
      rw [List.append_nil] at h
      rw [List.append_assoc]
      exact h
  · -- The first digit stands alone before the point, if there is one.
    have hfirst : IsDigits (digits.take 1) := isDigits_take hdigits Nat.one_pos
    have hexponent : isExponent ('e' :: (if point - 1 < 0 then '-' else '+') ::
        (List.replicate (2 - (Nat.toDigits 10 (point - 1).natAbs).length) '0' ++
          Nat.toDigits 10 (point - 1).natAbs)) = true := by
      refine isExponent_cons rfl ?_
      split <;> exact isDigits_zeros_append (isDigits_toDigits _) _
    split
    · have h := isUnsigned_append hfirst hexponent
      simpa only [List.append_nil, List.append_assoc, List.cons_append, List.nil_append] using h
    · rename_i hlong
      have h := isUnsigned_point hfirst (isDigits_drop hdigits (mt List.drop_eq_nil_iff.1 hlong)) hexponent
      simpa only [List.append_nil, List.append_assoc, List.cons_append, List.nil_append] using h

theorem isNumber_encodeBinary64 (x : Binary64) : isNumber (encodeBinary64 x) = true := by
  unfold encodeBinary64
  split
  · exact isNumber_ofInt _
  · rename_i hint
    split
    · rename_i hfinite
      cases x with
      | nan => contradiction
      | infinite negative => contradiction
      | finite negative m e =>
        have hm : m ≠ 0 := by
          rintro rfl
          by_cases he : 0 ≤ e <;> simp [Binary64.toInt?, Binary64.magnitude, he] at hint
        exact isNumber_signed negative (isUnsigned_positiveText hm e)
    · rfl

/-! ## Decimals -/

theorem isNumber_text (negative : Bool) (coefficient : Nat) (exponent : Int) :
    isNumber (Decimal.finite negative coefficient exponent).text = true := by
  have hdigits : IsDigits (Numeral.ofNat coefficient) := isDigits_toDigits coefficient
  unfold Decimal.text
  dsimp only
  generalize Numeral.ofNat coefficient = digits at hdigits ⊢
  generalize exponent + (digits.length : Int) = left
  -- Wherever the point stands, what is before it is digits, and so is what is behind it, if anything.
  generalize (if exponent ≤ 0 ∧ -6 < left then left else 1) = point
  have hexponent : isExponent (if left = point then []
      else 'E' :: (if left < point then [] else ['+']) ++ Numeral.ofInt (left - point)) = true := by
    split
    · rfl
    · refine isExponent_cons rfl ?_
      by_cases hlt : left < point
      · obtain ⟨n, hn⟩ := Int.eq_negSucc_of_lt_zero (show left - point < 0 by omega)
        rw [if_pos hlt, hn]
        exact isDigits_toDigits (n + 1)
      · obtain ⟨n, hn⟩ := Int.eq_ofNat_of_zero_le (show 0 ≤ left - point by omega)
        rw [if_neg hlt, hn]
        exact isDigits_toDigits n
  generalize (if left = point then []
      else 'E' :: (if left < point then [] else ['+']) ++ Numeral.ofInt (left - point)) = tail
    at hexponent ⊢
  rw [List.append_assoc]
  refine isNumber_signed negative ?_
  split
  · have h := isUnsigned_point isDigits_zero (isDigits_zeros_append hdigits (-point).toNat) hexponent
    simpa only [List.append_assoc, List.cons_append, List.nil_append] using h
  · rename_i hpoint
    have hwhole := isDigits_append_zeros (isDigits_take hdigits (n := point.toNat) (by omega))
      (point.toNat - digits.length)
    split
    · have h := isUnsigned_append hwhole hexponent
      simpa only [List.append_nil] using h
    · rename_i hfraction
      have h := isUnsigned_point hwhole (isDigits_drop hdigits (n := point.toNat) (by simpa using hfraction))
        hexponent
      simpa only [List.append_assoc, List.cons_append] using h

theorem isNumber_of_encodeDecimal {d : Decimal} {cs : List Char} (h : encodeDecimal d = .ok cs) :
    isNumber cs = true := by
  unfold encodeDecimal at h
  split at h
  · rename_i negative coefficient exponent
    split at h
    · split at h
      · rename_i c e _
        rw [← Except.ok.inj h, Decimal.integerText, List.append_assoc]
        have hdigits := isDigits_append_zeros (isDigits_toDigits c) e.toNat
        exact isNumber_signed negative (isUnsigned_of_isDigits hdigits)
      · contradiction
    · rw [← Except.ok.inj h]
      exact isNumber_text negative coefficient exponent
  · rw [← Except.ok.inj h]
    rfl

end ODataBrowser.Query
