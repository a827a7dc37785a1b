import ODataBrowser.Proofs.Number.Nearest
import ODataBrowser.Query.Literal

/-!
# Integers in filters

An integer can be given to a filter as such, as its numeral or as a decimal. The first is written digit by digit, the
second goes through the nearest double and the third through the decimals of calculation. So the three literals are
the same just for the integers that both roundings keep (`encodeNumber_agree_iff`), and a larger key may select another
record (`encodeNumber_of_large_key`).
-/

namespace ODataBrowser

/-- The decimal of an integer. -/
def Decimal.ofInt (n : Int) : Decimal :=
  .finite (n < 0) n.natAbs 0

/-- The text that is the numeral of an integer. -/
def Value.numeral (n : Int) : Value :=
  .text (String.ofList (Numeral.ofInt n))

namespace Query

open Numeral

/-! ## The three literals -/

theorem encodeNumber_int (n : Int) :
    encodeNumber (.int n) = if tenPow maxDigits ≤ n.natAbs then .error .unreadable else .ok (ofInt n) := by
  rw [encodeNumber, Scalar.checkText]
  split <;> rfl

/-- An integer is written as its numeral, unless it has too many digits. -/
theorem encodeNumber_int_eq_iff (n : Int) : encodeNumber (.int n) = .ok (ofInt n) ↔ n.natAbs < tenPow maxDigits := by
  rw [encodeNumber_int, ← Nat.not_le]
  split
  case isTrue hlarge => exact iff_of_false nofun (not_not_intro hlarge)
  case isFalse hsmall => exact iff_of_true rfl hsmall

theorem encodeNumber_int_of_ok {n : Int} {cs : List Char} (h : encodeNumber (.int n) = .ok cs) :
    encodeNumber (.int n) = .ok (ofInt n) := by
  rw [encodeNumber_int_eq_iff]
  rw [encodeNumber_int] at h
  by_contra hlarge
  rw [if_pos (Nat.le_of_not_lt hlarge)] at h
  exact absurd h nofun

theorem encodeBinary64_of_toInt? {x : Binary64} {n : Int} (h : x.toInt? = some n) : encodeBinary64 x = ofInt n := by
  rw [encodeBinary64, h]

theorem encodeNumber_numeral (n : Int) :
    encodeNumber (.numeral n) = .ok (encodeBinary64 (.ofRatio (n < 0) n.natAbs 1)) := by
  have hdisplay : (Value.numeral n).display = ofInt n := String.toList_ofList
  have hcheck : (Value.numeral n).checkText Value.maxDepth = .ok () := by
    rw [Value.numeral, Value.checkText]
    rfl
  change encodeNumeral (.numeral n) = _
  rw [encodeNumeral, hcheck, hdisplay, readBinary64_ofInt, Binary64.ofDecimal_eq_ofRatio]

/-- A numeral in the range of doubles is written as the numeral of the nearest double. -/
theorem encodeNumber_numeral_of_small {n : Int} (h : n.natAbs < 2 ^ 1024 - 2 ^ 970) :
    encodeNumber (.numeral n) =
      .ok (ofInt (signed (n < 0) (nearestMultiple n.natAbs (Binary64.unit n.natAbs)))) := by
  rw [encodeNumber_numeral, encodeBinary64_of_toInt? (Binary64.toInt?_ofRatio _ h)]

/-- A numeral beyond the doubles is written as zero. -/
theorem encodeNumber_numeral_of_large {n : Int} (h : 2 ^ 1024 - 2 ^ 970 ≤ n.natAbs) :
    encodeNumber (.numeral n) = .ok (ofInt 0) := by
  have hpos : 0 < n.natAbs := Nat.lt_of_lt_of_le (by decide +kernel) h
  rw [encodeNumber_numeral, Binary64.ofRatio_of_large _ hpos.ne' h]
  rfl

theorem exists_encodeNumber_numeral (n : Int) : ∃ k, encodeNumber (.numeral n) = .ok (ofInt k) :=
  (Nat.lt_or_ge n.natAbs (2 ^ 1024 - 2 ^ 970)).elim (fun h => ⟨_, encodeNumber_numeral_of_small h⟩)
    fun h => ⟨_, encodeNumber_numeral_of_large h⟩

/-- A decimal is written as the numeral of what calculation makes of it, unless that is too large. -/
theorem encodeNumber_decimal (n : Int) :
    encodeNumber (.decimal (.ofInt n)) =
      if tenPow 1000000 ≤ nearestMultiple n.natAbs (Decimal.unit n.natAbs) then .error .decimalOverflow
      else .ok (ofInt (signed (n < 0) (nearestMultiple n.natAbs (Decimal.unit n.natAbs)))) := by
  have hintegral : (Decimal.finite (n < 0) n.natAbs 0).isIntegral = true := by simp [Decimal.isIntegral]
  change encodeDecimal (.finite (n < 0) n.natAbs 0) = _
  rw [encodeDecimal, if_pos hintegral]
  rcases Nat.eq_zero_or_pos n.natAbs with hzero | hpos
  · rw [Int.natAbs_eq_zero.1 hzero, if_neg (by decide +kernel)]
    rfl
  · cases hnormal : Decimal.normalize? n.natAbs 0 with
    | none => rw [if_pos ((Decimal.isTooLarge_iff hpos).1 (Decimal.normalize?_eq_none_iff.1 hnormal).2)]
    | some kept =>
      obtain ⟨c, e⟩ := kept
      have hlarge : ¬Decimal.IsTooLarge n.natAbs 0 := fun h => by
        rw [Decimal.normalize?_eq_none_iff.2 ⟨hpos, h⟩] at hnormal
        contradiction
      obtain ⟨hc, k, rfl, hvalue⟩ := Decimal.normalize?_spec hpos hnormal
      have hkept : 0 < c * 10 ^ k := Nat.mul_pos hc (Nat.pow_pos (by decide))
      rw [if_neg (mt (Decimal.isTooLarge_iff hpos).2 hlarge), ← hvalue, ofInt_signed fun _ => hkept,
        ofNat_mul_pow hc, ← List.append_assoc]
      rfl

/-! ## Agreement -/

/-- A numeral is written as itself just if it is that of a double. -/
theorem encodeNumber_numeral_eq_iff (n : Int) :
    encodeNumber (.numeral n) = .ok (ofInt n) ↔ Binary64.IsExact n.natAbs := by
  rcases Nat.lt_or_ge n.natAbs (2 ^ 1024 - 2 ^ 970) with hsmall | hlarge
  · rw [encodeNumber_numeral_of_small hsmall, Except.ok.injEq, ofInt_injective.eq_iff, signed_eq_iff,
      nearestMultiple_eq_self_iff (Binary64.unit_pos _), Binary64.unit_dvd_iff hsmall]
  · rw [encodeNumber_numeral_of_large hlarge, Except.ok.injEq, ofInt_injective.eq_iff]
    have hne : n ≠ 0 := by
      rintro rfl
      exact absurd hlarge (by decide +kernel)
    exact iff_of_false hne.symm fun h => absurd h.lt (Nat.not_lt.2 hlarge)

/-- A decimal is written as the numeral of the integer just if calculation keeps it. -/
theorem encodeNumber_decimal_eq_iff (n : Int) :
    encodeNumber (.decimal (.ofInt n)) = .ok (ofInt n) ↔ Decimal.IsExact n.natAbs ∧ n.natAbs < tenPow 1000000 := by
  have hkept := nearestMultiple_eq_self_iff (n := n.natAbs) (Decimal.unit_pos n.natAbs)
  rw [encodeNumber_decimal, ← Decimal.unit_dvd_iff, ← hkept]
  split
  case isTrue hlarge =>
    refine iff_of_false nofun fun ⟨heq, hlt⟩ => ?_
    rw [heq] at hlarge
    exact Nat.not_le.2 hlt hlarge
  case isFalse hsmall =>
    rw [Except.ok.injEq, ofInt_injective.eq_iff, signed_eq_iff]
    refine (and_iff_left_of_imp fun heq => ?_).symm
    rw [heq] at hsmall
    exact Nat.not_le.1 hsmall

/-- **The three literals of an integer** are the same just if the integer is a double and calculation keeps it, and then
they are its numeral. A numeral is always written as that of some integer. -/
theorem encodeNumber_agree_iff (n : Int) :
    ((encodeNumber (.int n) = encodeNumber (.numeral n) ∧
        encodeNumber (.int n) = encodeNumber (.decimal (.ofInt n))) ↔
      Binary64.IsExact n.natAbs ∧ Decimal.IsExact n.natAbs) ∧
    (encodeNumber (.int n) = .ok (ofInt n) ↔ n.natAbs < tenPow maxDigits) ∧
    (encodeNumber (.numeral n) = .ok (ofInt n) ↔ Binary64.IsExact n.natAbs) ∧
    (encodeNumber (.decimal (.ofInt n)) = .ok (ofInt n) ↔
      Decimal.IsExact n.natAbs ∧ n.natAbs < tenPow 1000000) ∧
    ∃ k, encodeNumber (.numeral n) = .ok (ofInt k) := by
  have hnumeral := encodeNumber_numeral_eq_iff n
  have hdecimal := encodeNumber_decimal_eq_iff n
  have hwritten := exists_encodeNumber_numeral n
  refine ⟨⟨fun ⟨hn, hd⟩ => ?_, fun ⟨hn, hd⟩ => ?_⟩, encodeNumber_int_eq_iff n, hnumeral, hdecimal, hwritten⟩
  · obtain ⟨k, hk⟩ := hwritten
    have hint := encodeNumber_int_of_ok (hn.trans hk)
    exact ⟨hnumeral.1 (hn.symm.trans hint), (hdecimal.1 (hd.symm.trans hint)).1⟩
  · have hlt {k : Nat} (hk : 400 ≤ k) : n.natAbs < tenPow k := hn.lt.trans_le (Binary64.range_le_tenPow hk)
    have hint := (encodeNumber_int_eq_iff n).2 (hlt (by decide))
    exact ⟨hint.trans (hnumeral.2 hn).symm, hint.trans (hdecimal.2 ⟨hd, hlt (by decide)⟩).symm⟩

/-- A large key as a numeral and a larger one as a decimal are written as other numbers. -/
theorem encodeNumber_of_large_key :
    (encodeNumber (.numeral 9007199254740993)).toOption = some (ofInt 9007199254740992) ∧
      (encodeNumber (.decimal (.ofInt 12345678901234567890123456789))).toOption =
        some (ofInt 12345678901234567890123456790) := by
  decide

end Query
end ODataBrowser
