import Mathlib.Data.Nat.Log
import Mathlib.Tactic.Ring
import ODataBrowser.Number.Binary64

/-!
# Integers as doubles

An integer has a nearest double unless its absolute value reaches `2 ^ 1024 - 2 ^ 970`, halfway from the largest
double to the next power of two (`Binary64.ofInt?_eq_none_iff`). A natural number up to `2 ^ 53` is itself a
double (`Binary64.truncate?_ofRatio`).
-/

namespace ODataBrowser

/-! ## Rounding -/

theorem roundHalfEven_one (n : Nat) : roundHalfEven n 1 = n := by
  unfold roundHalfEven
  rw [Nat.mod_one, Nat.div_one]
  rfl

/-- A quotient below an even number is rounded up to it just if it is at least halfway there from the number
below. -/
theorem roundHalfEven_eq_iff {n d m : Nat} (hodd : m % 2 = 1) (hlt : n < (m + 1) * d) :
    roundHalfEven n d = m + 1 ↔ (2 * m + 1) * d ≤ 2 * n := by
  have hd : 0 < d := Nat.pos_of_ne_zero fun h => by simp [h] at hlt
  have hq : n / d < m + 1 := (Nat.div_lt_iff_lt_mul hd).2 hlt
  have hr : n % d < d := Nat.mod_lt n hd
  have hsplit : d * (n / d) + n % d = n := Nat.div_add_mod n d
  rw [show (2 * m + 1) * d = 2 * (d * m) + d by ring]
  unfold roundHalfEven
  dsimp only
  rcases Nat.lt_or_eq_of_le (Nat.le_of_lt_succ hq) with hm | hm
  · have hle : d * (n / d) + d ≤ d * m := Nat.mul_le_mul_left d hm
    refine iff_of_false ?_ (by omega)
    split <;> omega
  · rw [hm] at hsplit ⊢
    rcases hcompare : compare (2 * (n % d)) d with _ | _ | _
    · have := Nat.compare_eq_lt.1 hcompare
      simp only
      omega
    · have := Nat.compare_eq_eq.1 hcompare
      simp only
      omega
    · have := Nat.compare_eq_gt.1 hcompare
      exact iff_of_true rfl (by omega)

/-- A significand is rounded up to the next power of two just if it is at least halfway there. -/
theorem roundHalfEven_eq_two_pow_iff {n k : Nat} (h : n < 2 ^ (53 + (k + 1))) :
    roundHalfEven n (2 ^ (k + 1)) = 2 ^ 53 ↔ (2 ^ 54 - 1) * 2 ^ k ≤ n := by
  have hlt : n < (2 ^ 53 - 1 + 1) * 2 ^ (k + 1) := lt_of_lt_of_eq h (Nat.pow_add 2 53 (k + 1))
  refine (roundHalfEven_eq_iff (by decide) hlt).trans ?_
  rw [Nat.pow_succ']
  omega

namespace Binary64

/-! ## The range of doubles -/

theorem scaledRatio_one (n l : Nat) :
    scaledRatio n 1 ((l : Int) - 52) = (n * 2 ^ (52 - l), 2 ^ (l - 52)) := by
  unfold scaledRatio twoPow
  split
  · rw [show 52 - l = 0 by omega, show ((l : Int) - 52).toNat = l - 52 by omega, Nat.pow_zero,
      Nat.mul_one, Nat.one_mul]
    rfl
  · rw [show l - 52 = 0 by omega, show (-((l : Int) - 52)).toNat = 52 - l by omega, Nat.pow_zero]
    rfl

/-- A positive integer is scaled to a significand of 53 bits. -/
theorem exponentOf_one {n : Nat} (h : n ≠ 0) : exponentOf n 1 = (n.log2 : Int) - 52 := by
  have hlog : 2 ^ n.log2 ≤ n := Nat.log2_self_le h
  have hscaled : ¬n * 2 ^ (52 - n.log2) < twoPow 52 * 2 ^ (n.log2 - 52) := by
    rw [Nat.not_lt]
    refine le_trans (le_of_eq ?_) (Nat.mul_le_mul_right _ hlog)
    change 2 ^ 52 * _ = _
    rw [← Nat.pow_add, ← Nat.pow_add]
    exact congrArg _ (by omega)
  have hguess : (n.log2 : Int) - (Nat.log2 1 : Nat) - 52 = n.log2 - 52 := by
    rw [show Nat.log2 1 = 0 by decide, Int.natCast_zero, Int.sub_zero]
  unfold exponentOf
  rw [hguess]
  dsimp only
  rw [scaledRatio_one, if_neg hscaled]
  omega

theorem ofRatio_one {n : Nat} (negative : Bool) (h : n ≠ 0) :
    ofRatio negative n 1 = normalized negative
      (roundHalfEven (n * 2 ^ (52 - n.log2)) (2 ^ (n.log2 - 52))) (n.log2 - 52) := by
  unfold ofRatio
  rw [if_neg h, exponentOf_one h]
  dsimp only
  rw [scaledRatio_one]

theorem normalized_eq_infinite_iff {negative : Bool} {significand : Nat} {exponent : Int} :
    (∃ sign, normalized negative significand exponent = .infinite sign) ↔
      971 < exponent ∨ exponent = 971 ∧ significand = 2 ^ 53 := by
  unfold normalized
  by_cases hcarry : significand = twoPow 53
  · rw [if_pos hcarry]
    dsimp only
    by_cases hlarge : 971 < exponent + 1
    · rw [if_pos hlarge]
      have : exponent = 971 ∨ 971 < exponent := by omega
      exact iff_of_true ⟨_, rfl⟩ (this.symm.imp_right fun h => ⟨h, hcarry⟩)
    · rw [if_neg hlarge]
      refine iff_of_false (by simp) ?_
      omega
  · rw [if_neg hcarry]
    dsimp only
    have hcarry : ¬significand = 2 ^ 53 := hcarry
    by_cases hlarge : 971 < exponent
    · rw [if_pos hlarge]
      exact iff_of_true ⟨_, rfl⟩ (.inl hlarge)
    · rw [if_neg hlarge]
      exact iff_of_false (by simp) (by omega)

/-- A positive integer is rounded beyond the largest double just if it is at least halfway from it to the next
power of two. -/
theorem ofRatio_eq_infinite_iff {n : Nat} (negative : Bool) (h : n ≠ 0) :
    (∃ sign, ofRatio negative n 1 = .infinite sign) ↔ 2 ^ 1024 - 2 ^ 970 ≤ n := by
  rw [ofRatio_one negative h, normalized_eq_infinite_iff]
  have hlog : 2 ^ n.log2 ≤ n := Nat.log2_self_le h
  have hlt : n < 2 ^ (n.log2 + 1) := Nat.lt_log2_self
  have hbound : 2 ^ 1024 - 2 ^ 970 = (2 ^ 54 - 1) * 2 ^ 970 := by
    rw [Nat.sub_mul, ← Nat.pow_add, Nat.one_mul]
  rw [hbound]
  rcases lt_trichotomy n.log2 1023 with hsmall | heq | hlarge
  · have hle : n < 2 ^ 53 * 2 ^ 970 := by
      rw [← Nat.pow_add, ← Nat.log2_lt h]
      exact hsmall
    exact iff_of_false (by omega) (by omega)
  · rw [heq, show 52 - 1023 = 0 by decide, Nat.pow_zero, Nat.mul_one]
    rw [heq] at hlt
    refine Iff.trans ?_ (roundHalfEven_eq_two_pow_iff hlt)
    simp
  · have hle : 2 ^ 54 * 2 ^ 970 ≤ n := by
      rw [← Nat.pow_add]
      exact le_trans (Nat.pow_le_pow_right (by decide) hlarge) hlog
    exact iff_of_true (.inl (by omega)) (by omega)

/-- **The range of doubles.** An integer has no nearest double just if its absolute value is at least halfway from
the largest double to the next power of two. -/
theorem ofInt?_eq_none_iff (n : Int) : ofInt? n = none ↔ 2 ^ 1024 - 2 ^ 970 ≤ n.natAbs := by
  have hinfinite : ofInt? n = none ↔ ∃ sign, ofRatio (n < 0) n.natAbs 1 = .infinite sign := by
    unfold ofInt?
    cases ofRatio (n < 0) n.natAbs 1 <;> simp
  rw [hinfinite]
  by_cases hzero : n = 0
  · subst hzero
    refine iff_of_false (by simp [ofRatio]) ?_
    rw [Int.natAbs_zero, Nat.not_le]
    exact Nat.sub_pos_of_lt (pow_lt_pow_right₀ one_lt_two (show 970 < 1024 by decide))
  · exact ofRatio_eq_infinite_iff _ (Int.natAbs_ne_zero.2 hzero)

/-! ## Exact doubles -/

theorem magnitude_sub (significand : Nat) {l : Nat} (h : l ≤ 52) :
    magnitude significand ((l : Int) - 52) = (significand, 2 ^ (52 - l)) := by
  unfold magnitude twoPow
  split
  · rw [show 52 - l = 0 by omega, show ((l : Int) - 52).toNat = 0 by omega, Nat.pow_zero]
    exact Prod.ext (Nat.mul_one significand) rfl
  · rw [show (-((l : Int) - 52)).toNat = 52 - l by omega]
    rfl

/-- A positive integer below `2 ^ 53` is the double with its bits. -/
theorem ofRatio_of_small (negative : Bool) {n : Nat} (hzero : n ≠ 0) (hlog : n.log2 ≤ 52) :
    ofRatio negative n 1 = .finite negative (n * 2 ^ (52 - n.log2)) ((n.log2 : Int) - 52) := by
  have hfits : n * 2 ^ (52 - n.log2) ≠ twoPow 53 := by
    have hscaled : n * 2 ^ (52 - n.log2) < 2 ^ (n.log2 + 1) * 2 ^ (52 - n.log2) :=
      Nat.mul_lt_mul_of_pos_right Nat.lt_log2_self (Nat.two_pow_pos _)
    rw [← Nat.pow_add, show n.log2 + 1 + (52 - n.log2) = 53 by omega] at hscaled
    exact hscaled.ne
  rw [ofRatio_one negative hzero, show n.log2 - 52 = 0 by omega, Nat.pow_zero, roundHalfEven_one,
    normalized, if_neg hfits]
  dsimp only
  rw [if_neg (by omega)]

/-- An integer up to `2 ^ 53` is the integer part of its double. -/
theorem truncate?_ofRatio {n : Nat} (h : n ≤ 2 ^ 53) : (ofRatio false n 1).truncate? = some (n : Int) := by
  rcases Nat.lt_or_eq_of_le h with hlt | rfl
  · by_cases hzero : n = 0
    · subst hzero
      decide +kernel
    · have hlog : n.log2 ≤ 52 := Nat.le_of_lt_succ ((Nat.log2_lt hzero).2 hlt)
      rw [ofRatio_of_small false hzero hlog, truncate?, magnitude_sub _ hlog]
      simp [Nat.mul_div_cancel _ (Nat.two_pow_pos _)]
  · decide

end Binary64

end ODataBrowser
