import Mathlib.Algebra.Order.Field.Power
import Mathlib.Tactic.FieldSimp
import Mathlib.Tactic.Linarith
import Mathlib.Tactic.Positivity
import ODataBrowser.Proofs.Number.Integer

/-!
# Quotients as doubles

A quotient of natural numbers is scaled by the power of two that leaves 53 bits before the point
(`Binary64.exponentOf_spec`) and rounded to a natural number. So the double nearest to it differs from it by at most
half a unit in the last place (`Binary64.exists_ofRatio_near`).
-/

namespace ODataBrowser

/-! ## Rounding -/

/-- A quotient is rounded by at most a half. -/
theorem two_mul_natAbs_roundHalfEven_le (n : Nat) {d : Nat} (hd : 0 < d) :
    2 * ((roundHalfEven n d * d : Int) - n).natAbs ≤ d := by
  have hsplit : (d * (n / d) : Nat) + n % d = n := Nat.div_add_mod n d
  have hrest : n % d < d := Nat.mod_lt n hd
  have hzero : (n / d : Nat) * d = (d * (n / d) : Nat) := Nat.mul_comm _ _
  have hone : (n / d + 1) * d = d * (n / d) + d := by rw [Nat.add_mul, Nat.one_mul, Nat.mul_comm]
  have hvalue : (roundHalfEven n d * d : Int) = ((roundHalfEven n d * d : Nat) : Int) := (Nat.cast_mul _ _).symm
  rw [hvalue]
  unfold roundHalfEven
  dsimp only
  split
  case h_1 hcompare =>
    have hless := Nat.compare_eq_lt.1 hcompare
    omega
  case h_2 hcompare =>
    have hmore := Nat.compare_eq_gt.1 hcompare
    omega
  case h_3 hcompare =>
    have hhalf := Nat.compare_eq_eq.1 hcompare
    rcases Nat.mod_two_eq_zero_or_one (n / d) with heven | hodd
    · rw [heven, Nat.add_zero]
      omega
    · rw [hodd]
      omega

theorem abs_roundHalfEven_sub_le (n : Nat) {d : Nat} (hd : 0 < d) : |(roundHalfEven n d : ℚ) - n / d| ≤ 1 / 2 := by
  have hpos : (0 : ℚ) < d := Nat.cast_pos.2 hd
  have hnear : 2 * |(roundHalfEven n d : ℚ) * d - n| ≤ d := by
    have h := two_mul_natAbs_roundHalfEven_le n hd
    zify at h
    exact_mod_cast h
  have hscale : (roundHalfEven n d : ℚ) * d - n = (roundHalfEven n d - n / d) * d := by
    rw [sub_mul, div_mul_cancel₀ _ hpos.ne']
  rw [hscale, abs_mul, abs_of_pos hpos] at hnear
  refine le_of_mul_le_mul_right ?_ hpos
  linarith

/-- Only the quotient matters. -/
theorem roundHalfEven_mul_right (n d : Nat) {c : Nat} (hc : 0 < c) :
    roundHalfEven (n * c) (d * c) = roundHalfEven n d := by
  have hcompare : compare (2 * (n % d * c)) (d * c) = compare (2 * (n % d)) d := by
    rw [← Nat.mul_assoc]
    simp only [compare, compareOfLessAndEq, Nat.mul_lt_mul_right hc, Nat.mul_left_inj hc.ne']
  unfold roundHalfEven
  rw [Nat.mul_div_mul_right _ _ hc, Nat.mul_mod_mul_right, hcompare]

namespace Binary64

/-! ## Scaling -/

theorem magnitude_spec (m : Nat) (e : Int) :
    0 < (magnitude m e).2 ∧ ((magnitude m e).1 : ℚ) / (magnitude m e).2 = m * 2 ^ e := by
  unfold magnitude twoPow
  split
  case isTrue h =>
    lift e to Nat using h
    refine ⟨Nat.one_pos, ?_⟩
    simp
  case isFalse h =>
    obtain ⟨k, rfl⟩ : ∃ k : Nat, e = -k := ⟨(-e).toNat, by omega⟩
    refine ⟨Nat.pow_pos (by decide), ?_⟩
    simp [div_eq_mul_inv]

theorem scaledRatio_spec (n : Nat) {d : Nat} (hd : 0 < d) (e : Int) :
    0 < (scaledRatio n d e).2 ∧ ((scaledRatio n d e).1 : ℚ) / (scaledRatio n d e).2 = n / d / 2 ^ e := by
  unfold scaledRatio twoPow
  split
  case isTrue h =>
    lift e to Nat using h
    refine ⟨Nat.mul_pos hd (Nat.pow_pos (by decide)), ?_⟩
    simp [div_div]
  case isFalse h =>
    obtain ⟨k, rfl⟩ : ∃ k : Nat, e = -k := ⟨(-e).toNat, by omega⟩
    refine ⟨hd, ?_⟩
    simp [mul_div_right_comm]

/-- A quotient lies between the powers of two that the logarithms of its parts name. -/
theorem two_zpow_log_sub (n d : Nat) (hn : 0 < n) (hd : 0 < d) :
    (2 : ℚ) ^ ((n.log2 : Int) - d.log2 - 1) ≤ n / d ∧ (n : ℚ) / d < 2 ^ ((n.log2 : Int) - d.log2 + 1) := by
  have hpos : (0 : ℚ) < d := Nat.cast_pos.2 hd
  have htwo : (2 : ℚ) ≠ 0 := two_ne_zero
  have hlow (m : Nat) (hm : 0 < m) : (2 : ℚ) ^ (m.log2 : Int) ≤ m := by
    rw [zpow_natCast]
    exact_mod_cast Nat.log2_self_le hm.ne'
  have hhigh (m : Nat) : (m : ℚ) < 2 ^ ((m.log2 : Int) + 1) := by
    have hlog := @Nat.lt_log2_self m
    rw [← Nat.cast_succ, zpow_natCast]
    exact_mod_cast hlog
  constructor
  · rw [le_div_iff₀ hpos]
    calc (2 : ℚ) ^ ((n.log2 : Int) - d.log2 - 1) * d
        ≤ 2 ^ ((n.log2 : Int) - d.log2 - 1) * 2 ^ ((d.log2 : Int) + 1) := by gcongr; exact (hhigh d).le
      _ = 2 ^ (n.log2 : Int) := by rw [← zpow_add₀ htwo]; congr 1; omega
      _ ≤ n := hlow n hn
  · rw [div_lt_iff₀ hpos]
    calc (n : ℚ) < 2 ^ ((n.log2 : Int) + 1) := hhigh n
      _ = 2 ^ ((n.log2 : Int) - d.log2 + 1) * 2 ^ (d.log2 : Int) := by rw [← zpow_add₀ htwo]; congr 1; omega
      _ ≤ 2 ^ ((n.log2 : Int) - d.log2 + 1) * d := by gcongr; exact hlow d hd

/-- The exponent of a quotient leaves 53 bits before the point, or fewer where it is the least exponent. -/
theorem exponentOf_spec {n d : Nat} (hn : 0 < n) (hd : 0 < d) :
    (n : ℚ) / d < 2 ^ (exponentOf n d + 53) ∧ (-1074 < exponentOf n d → (2 : ℚ) ^ (exponentOf n d + 52) ≤ n / d) := by
  obtain ⟨hlow, hhigh⟩ := two_zpow_log_sub n d hn hd
  have hone : (1 : ℚ) ≤ 2 := one_le_two
  unfold exponentOf
  generalize (n.log2 : Int) - d.log2 = l at hlow hhigh ⊢
  obtain ⟨hpos, hquotient⟩ := scaledRatio_spec n hd (l - 52)
  have hscaled : (scaledRatio n d (l - 52)).1 < twoPow 52 * (scaledRatio n d (l - 52)).2 ↔ (n : ℚ) / d < 2 ^ l := by
    have hposq : (0 : ℚ) < (scaledRatio n d (l - 52)).2 := Nat.cast_pos.2 hpos
    have hsplit : (2 : ℚ) ^ l = ((twoPow 52 : Nat) : ℚ) * 2 ^ (l - 52) := by
      rw [show ((twoPow 52 : Nat) : ℚ) = 2 ^ (52 : Int) by norm_num [twoPow], ← zpow_add₀ two_ne_zero]
      congr 1
      omega
    rw [hsplit, ← div_lt_iff₀ (by positivity), ← hquotient, div_lt_iff₀ hposq]
    exact_mod_cast Iff.rfl
  dsimp only
  split
  case isTrue hless =>
    have hless := hscaled.1 hless
    refine ⟨hless.trans_le (zpow_le_zpow_right₀ hone (by omega)), fun h => ?_⟩
    exact (zpow_le_zpow_right₀ hone (by omega)).trans hlow
  case isFalse hmore =>
    have hmore := not_lt.1 (mt hscaled.2 hmore)
    refine ⟨hhigh.trans_le (zpow_le_zpow_right₀ hone (by omega)), fun h => ?_⟩
    exact (zpow_le_zpow_right₀ hone (by omega)).trans hmore

/-- A quotient below a power of two has a smaller exponent. -/
theorem exponentOf_lt {n d : Nat} (hn : 0 < n) (hd : 0 < d) {e : Int} (he : -1074 < e)
    (h : (n : ℚ) / d < 2 ^ (e + 52)) : exponentOf n d < e := by
  by_contra hle
  have hlow := (exponentOf_spec hn hd).2 (by omega)
  have hpow : (2 : ℚ) ^ (e + 52) ≤ 2 ^ (exponentOf n d + 52) := zpow_le_zpow_right₀ one_le_two (by omega)
  linarith

/-- A quotient from a power of two on has an exponent at least as large. -/
theorem le_exponentOf {n d : Nat} (hn : 0 < n) (hd : 0 < d) {e : Int} (h : (2 : ℚ) ^ (e + 52) ≤ n / d) :
    e ≤ exponentOf n d := by
  by_contra hlt
  have hhigh := (exponentOf_spec hn hd).1
  have hpow : (2 : ℚ) ^ (exponentOf n d + 53) ≤ 2 ^ (e + 52) := zpow_le_zpow_right₀ one_le_two (by omega)
  linarith

/-! ## The nearest double -/

/-- The double with a significand and an exponent has their value. -/
theorem exists_normalized_eq (negative : Bool) (significand : Nat) {exponent : Int} (h : exponent < 971) :
    ∃ m e, normalized negative significand exponent = .finite negative m e ∧
      (m : ℚ) * 2 ^ e = significand * 2 ^ exponent := by
  unfold normalized
  by_cases hcarry : significand = twoPow 53
  · rw [if_pos hcarry]
    dsimp only
    rw [if_neg (by omega)]
    refine ⟨_, _, rfl, ?_⟩
    rw [hcarry, zpow_add₀ two_ne_zero]
    norm_num [twoPow]
    ring
  · rw [if_neg hcarry]
    dsimp only
    rw [if_neg (by omega)]
    exact ⟨_, _, rfl, rfl⟩

theorem exists_ofRatio_eq (negative : Bool) {n d : Nat} (hn : 0 < n) (h : exponentOf n d < 971) :
    ∃ m e, ofRatio negative n d = .finite negative m e ∧
      (m : ℚ) * 2 ^ e = roundHalfEven (scaledRatio n d (exponentOf n d)).1 (scaledRatio n d (exponentOf n d)).2 *
        2 ^ exponentOf n d := by
  unfold ofRatio
  rw [if_neg hn.ne']
  exact exists_normalized_eq negative _ h

/-- **The double nearest to a quotient** differs from it by at most half a unit in the last place. -/
theorem exists_ofRatio_near (negative : Bool) {n d : Nat} (hn : 0 < n) (hd : 0 < d) (h : exponentOf n d < 971) :
    ∃ m e, ofRatio negative n d = .finite negative m e ∧ |(m : ℚ) * 2 ^ e - n / d| ≤ 2 ^ exponentOf n d / 2 := by
  obtain ⟨m, e, hvalue, heq⟩ := exists_ofRatio_eq negative hn h
  obtain ⟨hpos, hquotient⟩ := scaledRatio_spec n hd (exponentOf n d)
  have hunit : (0 : ℚ) < 2 ^ exponentOf n d := by positivity
  have hnear := abs_roundHalfEven_sub_le (scaledRatio n d (exponentOf n d)).1 hpos
  rw [hquotient] at hnear
  refine ⟨m, e, hvalue, ?_⟩
  have hscale : (m : ℚ) * 2 ^ e - n / d =
      (roundHalfEven (scaledRatio n d (exponentOf n d)).1 (scaledRatio n d (exponentOf n d)).2 -
        n / d / 2 ^ exponentOf n d) * 2 ^ exponentOf n d := by
    rw [heq, sub_mul, div_mul_cancel₀ _ hunit.ne']
  rw [hscale, abs_mul, abs_of_pos hunit]
  linarith [mul_le_mul_of_nonneg_right hnear hunit.le]

end Binary64

end ODataBrowser
