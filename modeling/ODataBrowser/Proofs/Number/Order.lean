import Mathlib.Algebra.Order.Ring.Nat
import ODataBrowser.Value.Order

/-!
# The order of integers

Integers are compared by their exact forms: a sign, digits without trailing zeros, and a power of ten. This order is
the usual one (`Exact.lt_ofInt`), so the smaller of two integer values is the one of the smaller integer
(`Value.less_int`).
-/

namespace ODataBrowser

/-! ## Digits -/

theorem Numeral.lt_pow_length_ofNat (n : Nat) : n < 10 ^ (ofNat n).length :=
  (Nat.length_toDigits_le_iff (by decide) Nat.length_toDigits_pos).1 le_rfl

theorem Numeral.pow_length_ofNat_le {n : Nat} (hn : 0 < n) : 10 ^ ((ofNat n).length - 1) ≤ n := by
  rcases Nat.eq_zero_or_pos ((ofNat n).length - 1) with hone | hmore
  · rwa [hone]
  · have hiff : (ofNat n).length ≤ (ofNat n).length - 1 ↔ n < 10 ^ ((ofNat n).length - 1) :=
      Nat.length_toDigits_le_iff (by decide) hmore
    omega

theorem Decimal.dropZeros_spec (fuel coefficient exponent : Nat) :
    ∃ d e : Nat, dropZeros fuel coefficient exponent = (d, (e : Int)) ∧
      d * 10 ^ e = coefficient * 10 ^ exponent := by
  induction fuel generalizing coefficient exponent with
  | zero => exact ⟨coefficient, exponent, rfl, rfl⟩
  | succ fuel ih =>
    unfold dropZeros
    split
    · rename_i hzero
      obtain ⟨d, e, heq, hvalue⟩ := ih (coefficient / 10) (exponent + 1)
      refine ⟨d, e, by exact_mod_cast heq, ?_⟩
      rw [hvalue, pow_succ', ← mul_assoc, Nat.div_mul_cancel (Nat.dvd_of_mod_eq_zero hzero)]
    · exact ⟨coefficient, exponent, rfl, rfl⟩

namespace Exact

/-! ## Exact forms -/

/-- A number with a longer numeral is larger, whatever its digits are. -/
theorem mul_pow_lt_of_length {d e d' e' : Nat} (hd' : 0 < d')
    (h : (Numeral.ofNat d).length + e < (Numeral.ofNat d').length + e') : d * 10 ^ e < d' * 10 ^ e' := by
  have hpos : 0 < (Numeral.ofNat d').length := Nat.length_toDigits_pos
  calc d * 10 ^ e < 10 ^ (Numeral.ofNat d).length * 10 ^ e :=
        Nat.mul_lt_mul_of_pos_right (Numeral.lt_pow_length_ofNat d) (Nat.pow_pos (by decide))
    _ = 10 ^ ((Numeral.ofNat d).length + e) := (pow_add _ _ _).symm
    _ ≤ 10 ^ ((Numeral.ofNat d').length - 1 + e') := Nat.pow_le_pow_right (by decide) (by omega)
    _ = 10 ^ ((Numeral.ofNat d').length - 1) * 10 ^ e' := pow_add _ _ _
    _ ≤ d' * 10 ^ e' := Nat.mul_le_mul_right _ (Numeral.pow_length_ofNat_le hd')

/-- Positive numbers are compared by their values. -/
theorem isBelow_iff {d d' : Nat} (hd : 0 < d) (hd' : 0 < d') (e e' : Nat) :
    isBelow d e d' e' = true ↔ d * 10 ^ e < d' * 10 ^ e' := by
  unfold isBelow
  dsimp only
  split
  · rename_i hless
    exact iff_of_true rfl (mul_pow_lt_of_length hd' (by omega))
  · split
    · rename_i hmore
      exact iff_of_false (by simp) (Nat.not_lt.2 (mul_pow_lt_of_length hd (by omega)).le)
    · -- The smaller one of the two powers of ten is a factor of both numbers.
      have hpow : ∀ i j : Nat, 10 ^ i = tenPow ((i : Int) - j).toNat * 10 ^ min i j := by
        intro i j
        rw [tenPow, Nat.pow_eq, ← pow_add]
        congr 1
        omega
      rw [decide_eq_true_iff, hpow e e', hpow e' e, min_comm e' e, ← mul_assoc, ← mul_assoc]
      exact (Nat.mul_lt_mul_right (Nat.pow_pos (by decide))).symm

/-- The exact form of digits, unless they are zero. -/
theorem ofDigits_cases (negative : Bool) (digits : Nat) :
    digits = 0 ∧ ofDigits negative digits 0 = .finite false 0 0 ∨
    0 < digits ∧ ∃ d e : Nat, 0 < d ∧ ofDigits negative digits 0 = .finite negative d e ∧ d * 10 ^ e = digits := by
  rcases Nat.eq_zero_or_pos digits with hzero | hpos
  · exact .inl ⟨hzero, if_pos hzero⟩
  · obtain ⟨d, e, heq, hvalue⟩ := Decimal.dropZeros_spec (Numeral.ofNat digits).length digits 0
    rw [pow_zero, mul_one] at hvalue
    refine .inr ⟨hpos, d, e, Nat.pos_of_ne_zero ?_, ?_, hvalue⟩
    · rintro rfl
      omega
    · have hzeros : Decimal.dropZeros (Numeral.ofNat digits).length digits 0 = (d, (e : Int)) := heq
      rw [ofDigits, if_neg hpos.ne', hzeros]

/-- The exact forms of integers are ordered as these are. -/
theorem lt_ofInt (m n : Int) : (ofInt m).lt (ofInt n) = decide (m < n) := by
  rw [Bool.eq_iff_iff, decide_eq_true_iff]
  unfold ofInt
  rcases ofDigits_cases (m < 0) m.natAbs with ⟨hm, heq⟩ | ⟨hm, d, e, hd, heq, hvalue⟩ <;>
  rcases ofDigits_cases (n < 0) n.natAbs with ⟨hn, heq'⟩ | ⟨hn, d', e', hd', heq', hvalue'⟩ <;>
  rw [heq, heq', lt]
  · simp
    omega
  · simp [hd'.ne']
    omega
  · simp [hd.ne']
    omega
  · rw [if_neg hd.ne', if_neg hd'.ne']
    have hbelow := isBelow_iff hd hd' e e'
    have habove := isBelow_iff hd' hd e' e
    rw [hvalue, hvalue'] at hbelow habove
    by_cases hneg : m < 0 <;> by_cases hneg' : n < 0 <;> simp [hneg, hneg', hbelow, habove] <;> omega

end Exact

theorem Value.less_int (m n : Int) : (Value.int m).less (.int n) = .ok (decide (m < n)) := by
  rw [← Exact.lt_ofInt]
  rfl

end ODataBrowser
