import ODataBrowser.Proofs.Number.Order

/-!
# Decimals that calculation can represent

Calculation keeps 28 digits. It can represent a decimal just if what these digits round it to is below
`10 ^ 1000000` (`Decimal.normalize?_eq_none_iff`).
-/

namespace ODataBrowser

/-- A numeral has more digits than a power of ten has zeros just if the number is no smaller. -/
theorem Numeral.lt_length_ofNat_iff {n : Nat} (hn : 0 < n) (k : Nat) : k < (ofNat n).length ↔ tenPow k ≤ n := by
  rw [tenPow, Nat.pow_eq]
  constructor
  · intro h
    calc 10 ^ k ≤ 10 ^ ((ofNat n).length - 1) := Nat.pow_le_pow_right (by decide) (by omega)
      _ ≤ n := pow_length_ofNat_le hn
  · intro h
    exact (Nat.pow_lt_pow_iff_right (by decide)).1 (h.trans_lt (lt_pow_length_ofNat n))

theorem div_le_roundHalfEven (n d : Nat) : n / d ≤ roundHalfEven n d := by
  unfold roundHalfEven
  dsimp only
  split <;> omega

namespace Decimal

/-- Whether a positive number is too large for calculation: `10 ^ 1000000` or more, once it is rounded. -/
def IsTooLarge (coefficient : Nat) (exponent : Int) : Prop :=
  tenPow (maxExponent + 1 - (rounded coefficient exponent).2).toNat ≤ (rounded coefficient exponent).1

/-- Rounding leaves a positive number positive. -/
theorem rounded_pos {coefficient : Nat} (h : 0 < coefficient) (exponent : Int) :
    0 < (rounded coefficient exponent).1 := by
  have hdigits : 0 < (Numeral.ofNat coefficient).length := Nat.length_toDigits_pos
  have hsurplus : tenPow ((Numeral.ofNat coefficient).length - precision) ≤ coefficient :=
    (Numeral.lt_length_ofNat_iff h _).1 (by unfold precision; omega)
  exact (Nat.div_pos hsurplus (tenPow_pos _)).trans_le (div_le_roundHalfEven ..)

/-- **A decimal can be calculated with** unless it is too large. -/
theorem normalize?_eq_none_iff {coefficient : Nat} {exponent : Int} :
    normalize? coefficient exponent = none ↔ 0 < coefficient ∧ IsTooLarge coefficient exponent := by
  unfold normalize?
  split
  case isTrue hzero => exact iff_of_false nofun fun h => h.1.ne' hzero
  case isFalse hne =>
    have hpos : 0 < coefficient := Nat.pos_of_ne_zero hne
    have hlength := Numeral.lt_length_ofNat_iff (rounded_pos hpos exponent)
      (maxExponent + 1 - (rounded coefficient exponent).2).toNat
    rw [and_iff_right hpos, IsTooLarge, ← hlength]
    have hdigits : 0 < (Numeral.ofNat (rounded coefficient exponent).1).length := Nat.length_toDigits_pos
    dsimp only
    split
    case isTrue hlarge => exact iff_of_true rfl (by omega)
    case isFalse hsmall => exact iff_of_false nofun (by omega)

end Decimal

end ODataBrowser
