import ODataBrowser.Proofs.Number.Decimal
import ODataBrowser.Proofs.Number.Numeral

/-!
# Integers that rounding keeps

The double nearest to an integer is a multiple of its unit (`Binary64.toInt?_ofRatio`), and what calculation keeps of a
decimal is a multiple of a power of ten (`Decimal.normalize?_eq_some`). Such a rounding keeps an integer just if the
integer is a multiple itself: a significand of 53 bits times a power of two (`Binary64.unit_dvd_iff`), or 28 digits
times a power of ten (`Decimal.unit_dvd_iff`).
-/

namespace ODataBrowser

/-! ## Signs and zeros -/

/-- The integer with the given sign and absolute value. -/
def signed (negative : Bool) (n : Nat) : Int :=
  if negative then -n else n

theorem signed_eq_iff {n : Int} {m : Nat} : signed (n < 0) m = n ↔ m = n.natAbs := by
  unfold signed
  split <;> simp_all <;> omega

theorem Numeral.ofInt_signed {negative : Bool} {n : Nat} (h : negative = true → 0 < n) :
    ofInt (signed negative n) = (if negative then ['-'] else []) ++ ofNat n := by
  cases negative with
  | false => rfl
  | true =>
    obtain ⟨m, rfl⟩ := Nat.exists_eq_add_of_lt (h rfl)
    rfl

/-- A positive number times a power of ten has its digits and as many zeros. -/
theorem Numeral.ofNat_mul_pow {n : Nat} (hn : 0 < n) (k : Nat) :
    ofNat (n * 10 ^ k) = ofNat n ++ List.replicate k '0' := by
  induction k with
  | zero => simp
  | succ k ih =>
    have hpos : 0 < n * 10 ^ k := Nat.mul_pos hn (Nat.pow_pos (by decide))
    have hzero : Nat.toDigits 10 0 = ['0'] := rfl
    rw [List.replicate_succ', ← List.append_assoc, ← ih, ← hzero]
    refine (congrArg ofNat ?_).trans (Nat.toDigits_append_toDigits (by decide) hpos (by decide)).symm
    rw [Nat.pow_succ, Nat.add_zero, Nat.mul_comm 10, Nat.mul_assoc]

/-! ## Multiples -/

/-- The multiple of `d` nearest to `n`, a tie going to the even one. -/
def nearestMultiple (n d : Nat) : Nat :=
  roundHalfEven n d * d

theorem roundHalfEven_of_dvd {n d : Nat} (hd : 0 < d) (h : d ∣ n) : roundHalfEven n d = n / d := by
  have hlt : compare (2 * (n % d)) d = .lt := by
    rw [Nat.mod_eq_zero_of_dvd h]
    exact Nat.compare_eq_lt.2 hd
  unfold roundHalfEven
  rw [hlt]

/-- Rounding keeps just the multiples. -/
theorem nearestMultiple_eq_self_iff {n d : Nat} (hd : 0 < d) : nearestMultiple n d = n ↔ d ∣ n := by
  refine ⟨fun h => h ▸ Nat.dvd_mul_left d _, fun h => ?_⟩
  rw [nearestMultiple, roundHalfEven_of_dvd hd h, Nat.div_mul_cancel h]

/-- A multiple of the unit that `p` of `l` digits leave has a factor of `p` digits. -/
theorem exists_of_pow_dvd {b l p n : Nat} (hb : 0 < b) (hlt : n < b ^ l) (h : b ^ (l - p) ∣ n) :
    ∃ m < b ^ p, n = m * b ^ (l - p) := by
  obtain ⟨m, rfl⟩ := h
  refine ⟨m, ?_, Nat.mul_comm _ _⟩
  have hsplit : b ^ l ≤ b ^ (l - p) * b ^ p := by
    rw [← Nat.pow_add]
    exact Nat.pow_le_pow_right hb (by omega)
  exact Nat.lt_of_mul_lt_mul_left (hlt.trans_le hsplit)

/-- A number of `l` digits of which only the first `p` are not zero is a multiple of the unit that these leave. -/
theorem pow_dvd_of_eq {b l p m e n : Nat} (hb : 1 < b) (hle : b ^ (l - 1) ≤ n) (hm : m < b ^ p)
    (h : n = m * b ^ e) : b ^ (l - p) ∣ n := by
  have hlt : b ^ (l - 1) < b ^ (p + e) := by
    refine hle.trans_lt ?_
    rw [h, Nat.pow_add]
    exact Nat.mul_lt_mul_of_pos_right hm (Nat.pow_pos (Nat.zero_lt_of_lt hb))
  have hexponent : l - 1 < p + e := (Nat.pow_lt_pow_iff_right hb).1 hlt
  exact h ▸ Nat.dvd_mul_left_of_dvd (Nat.pow_dvd_pow b (by omega)) m

namespace Binary64

/-! ## Doubles -/

/-- The distance between the doubles next to a natural number, at least one. -/
def unit (n : Nat) : Nat :=
  2 ^ (n.log2 - 52)

theorem unit_pos (n : Nat) : 0 < unit n :=
  Nat.two_pow_pos _

/-- Whether a natural number is a double: a significand of 53 bits times a power of two. -/
def IsExact (n : Nat) : Prop :=
  ∃ m e, m < 2 ^ 53 ∧ e ≤ 971 ∧ n = m * 2 ^ e

theorem IsExact.lt {n : Nat} (h : IsExact n) : n < 2 ^ 1024 - 2 ^ 970 := by
  obtain ⟨m, e, hm, he, rfl⟩ := h
  have hbound : 2 ^ 1024 - 2 ^ 970 = (2 ^ 54 - 1) * 2 ^ 970 := by
    rw [Nat.sub_mul, ← Nat.pow_add, Nat.one_mul]
  have hpow : 2 ^ e ≤ 2 * 2 ^ 970 := by
    rw [← Nat.pow_succ']
    exact Nat.pow_le_pow_right Nat.two_pos (he : e ≤ 970 + 1)
  have hle : m * 2 ^ e ≤ (2 ^ 53 - 1) * (2 * 2 ^ 970) := Nat.mul_le_mul (Nat.le_sub_one_of_lt hm) hpow
  have hpos : 0 < 2 ^ 970 := Nat.two_pow_pos _
  rw [hbound]
  omega

/-- A natural number in the range of doubles is one just if it is a multiple of its unit. -/
theorem unit_dvd_iff {n : Nat} (h : n < 2 ^ 1024 - 2 ^ 970) : unit n ∣ n ↔ IsExact n := by
  rcases Nat.eq_zero_or_pos n with rfl | hpos
  · exact iff_of_true (Nat.dvd_zero _) ⟨0, 0, by decide, by decide, rfl⟩
  · have hlog : n.log2 < 1024 := (Nat.log2_lt hpos.ne').2 (Nat.lt_of_lt_of_le h (Nat.sub_le (2 ^ 1024) (2 ^ 970)))
    rw [unit, show n.log2 - 52 = n.log2 + 1 - 53 by omega]
    constructor
    · intro hdvd
      obtain ⟨m, hm, heq⟩ := exists_of_pow_dvd Nat.two_pos Nat.lt_log2_self hdvd
      exact ⟨m, _, hm, by omega, heq⟩
    · rintro ⟨m, e, hm, -, heq⟩
      exact pow_dvd_of_eq Nat.one_lt_two (Nat.log2_self_le hpos.ne') hm heq

theorem toInt?_finite (negative : Bool) {m k d : Nat} {e : Int} (hd : 0 < d) (h : magnitude m e = (k * d, d)) :
    (finite negative m e).toInt? = some (signed negative k) := by
  rw [toInt?, h]
  simp [signed, Nat.mul_div_cancel k hd]

/-- A significand that has just reached `2 ^ 53` keeps its value. -/
theorem toInt?_normalized (negative : Bool) {m k : Nat}
    (h : ¬∃ sign, normalized negative m (k : Int) = .infinite sign) :
    (normalized negative m (k : Int)).toInt? = some (signed negative (m * 2 ^ k)) := by
  rw [normalized_eq_infinite_iff, not_or] at h
  unfold normalized
  by_cases hcarry : m = twoPow 53
  · have hvalue : magnitude (twoPow 52) ((k : Int) + 1) = (m * 2 ^ k * 1, 1) := by
      rw [magnitude, if_pos (by omega), hcarry, Nat.mul_one, show ((k : Int) + 1).toNat = k + 1 by omega]
      change (2 ^ 52 * 2 ^ (k + 1), 1) = (2 ^ 53 * 2 ^ k, 1)
      rw [← Nat.pow_add, ← Nat.pow_add, show 52 + (k + 1) = 53 + k by omega]
    have hrange : ¬971 < (k : Int) + 1 := fun hlarge => h.2 ⟨by omega, hcarry⟩
    rw [if_pos hcarry]
    dsimp only
    rw [if_neg hrange]
    exact toInt?_finite negative Nat.one_pos hvalue
  · have hvalue : magnitude m (k : Int) = (m * 2 ^ k * 1, 1) := by
      rw [magnitude, if_pos (by omega), Nat.mul_one]
      rfl
    rw [if_neg hcarry]
    dsimp only
    rw [if_neg h.1]
    exact toInt?_finite negative Nat.one_pos hvalue

/-- The double nearest to an integer is the nearest multiple of its unit, unless it lies beyond the doubles. -/
theorem toInt?_ofRatio (negative : Bool) {n : Nat} (h : n < 2 ^ 1024 - 2 ^ 970) :
    (ofRatio negative n 1).toInt? = some (signed negative (nearestMultiple n (unit n))) := by
  rcases Nat.eq_zero_or_pos n with rfl | hpos
  · cases negative <;> decide +kernel
  · rcases Nat.lt_or_ge 52 n.log2 with hlarge | hsmall
    · have hfinite : ¬∃ sign, ofRatio negative n 1 = .infinite sign := by
        rw [ofRatio_eq_infinite_iff negative hpos.ne']
        exact Nat.not_le.2 h
      rw [ofRatio_one negative hpos.ne', show 52 - n.log2 = 0 by omega, Nat.pow_zero, Nat.mul_one,
        show (n.log2 : Int) - 52 = (n.log2 - 52 : Nat) by omega] at hfinite ⊢
      exact toInt?_normalized negative hfinite
    · rw [ofRatio_of_small negative hpos.ne' hsmall, nearestMultiple, unit, show n.log2 - 52 = 0 by omega,
        Nat.pow_zero, roundHalfEven_one, Nat.mul_one]
      exact toInt?_finite negative (Nat.two_pow_pos (52 - n.log2)) (magnitude_sub _ hsmall)

theorem sign_of_normalized {negative sign : Bool} {m : Nat} {e : Int}
    (h : normalized negative m e = .infinite sign) : sign = negative := by
  unfold normalized at h
  generalize (if m = twoPow 53 then (twoPow 52, e + 1) else (m, e)) = shown at h
  dsimp only at h
  split at h
  · exact (infinite.inj h).symm
  · contradiction

/-- An integer beyond the doubles is rounded to the infinity of its sign. -/
theorem ofRatio_of_large (negative : Bool) {n : Nat} (hne : n ≠ 0) (h : 2 ^ 1024 - 2 ^ 970 ≤ n) :
    ofRatio negative n 1 = .infinite negative := by
  obtain ⟨sign, hsign⟩ := (ofRatio_eq_infinite_iff negative hne).2 h
  rw [hsign, sign_of_normalized ((ofRatio_one negative hne).symm.trans hsign)]

/-- Numbers of more than 400 digits are beyond the doubles. -/
theorem range_le_tenPow {k : Nat} (h : 400 ≤ k) : 2 ^ 1024 - 2 ^ 970 ≤ tenPow k := by
  have hbound : 2 ^ 1024 ≤ 10 ^ k :=
    calc 2 ^ 1024 ≤ 2 ^ (3 * k) := Nat.pow_le_pow_right Nat.two_pos (by omega)
      _ = (2 ^ 3) ^ k := Nat.pow_mul 2 3 k
      _ ≤ 10 ^ k := Nat.pow_le_pow_left (by decide) k
  exact (Nat.sub_le (2 ^ 1024) (2 ^ 970)).trans hbound

/-- Writing an integer in decimal notation does not change its double. -/
theorem ofDecimal_eq_ofRatio (negative : Bool) (n : Nat) : ofDecimal negative n 0 = ofRatio negative n 1 := by
  unfold ofDecimal
  split
  case isTrue hzero => rw [hzero, ofRatio, if_pos rfl]
  case isFalse hne =>
    split
    case isTrue hlong =>
      have hlong : 400 < (Numeral.ofNat n).length := by
        rw [digitCount, Int.zero_add] at hlong
        exact Int.ofNat_lt.1 hlong
      have hlong : tenPow 400 ≤ n := (Numeral.lt_length_ofNat_iff (Nat.pos_of_ne_zero hne) 400).1 hlong
      exact (ofRatio_of_large negative hne ((range_le_tenPow le_rfl).trans hlong)).symm
    case isFalse =>
      rw [if_neg (by omega), if_pos le_rfl]
      exact congrArg (ofRatio negative · 1) (Nat.mul_one n)

end Binary64

namespace Decimal

/-! ## Decimals -/

/-- The power of ten that calculation rounds a natural number to, at least one. -/
def unit (n : Nat) : Nat :=
  10 ^ ((Numeral.ofNat n).length - precision)

/-- Whether a natural number is kept by calculation: 28 digits times a power of ten. -/
def IsExact (n : Nat) : Prop :=
  ∃ c e, c < 10 ^ precision ∧ n = c * 10 ^ e

theorem unit_pos (n : Nat) : 0 < unit n :=
  Nat.pow_pos (by decide)

/-- A natural number is kept by calculation just if it is a multiple of its unit. -/
theorem unit_dvd_iff {n : Nat} : unit n ∣ n ↔ IsExact n := by
  rcases Nat.eq_zero_or_pos n with rfl | hpos
  · exact iff_of_true (Nat.dvd_zero _) ⟨0, 0, Nat.pow_pos (by decide), rfl⟩
  · constructor
    · intro hdvd
      obtain ⟨c, hc, heq⟩ := exists_of_pow_dvd (by decide) (Numeral.lt_pow_length_ofNat n) hdvd
      exact ⟨c, _, hc, heq⟩
    · rintro ⟨c, e, hc, heq⟩
      exact pow_dvd_of_eq (by decide) (Numeral.pow_length_ofNat_le hpos) hc heq

theorem rounded_zero (n : Nat) :
    rounded n 0 = (roundHalfEven n (unit n), (((Numeral.ofNat n).length - precision : Nat) : Int)) :=
  congrArg (Prod.mk _) (Int.zero_add _)

/-- What calculation makes of a positive integer is the nearest multiple of its unit. -/
theorem normalize?_spec {n c : Nat} {e : Int} (hn : 0 < n) (h : normalize? n 0 = some (c, e)) :
    0 < c ∧ ∃ k : Nat, e = k ∧ c * 10 ^ k = nearestMultiple n (unit n) := by
  have hpos : 0 < roundHalfEven n (unit n) := rounded_pos hn 0
  rw [normalize?, if_neg hn.ne', rounded_zero] at h
  dsimp only at h
  split at h
  · contradiction
  · obtain ⟨d, k, hzeros, hvalue⟩ := dropZeros_spec (Numeral.ofNat (roundHalfEven n (unit n))).length
      (roundHalfEven n (unit n)) ((Numeral.ofNat n).length - precision)
    obtain ⟨rfl, rfl⟩ := Prod.mk.inj (hzeros.symm.trans (Option.some.inj h))
    refine ⟨Nat.pos_of_ne_zero ?_, k, rfl, hvalue⟩
    rintro rfl
    rw [Nat.zero_mul] at hvalue
    exact absurd hvalue.symm (Nat.mul_pos hpos (unit_pos n)).ne'

/-- Rounding takes a positive integer out of the range of calculation just if the nearest multiple of its unit is. -/
theorem isTooLarge_iff {n : Nat} (hn : 0 < n) : IsTooLarge n 0 ↔ tenPow 1000000 ≤ nearestMultiple n (unit n) := by
  have hpos : 0 < roundHalfEven n (unit n) := rounded_pos hn 0
  rw [IsTooLarge, rounded_zero, nearestMultiple, unit]
  rw [unit] at hpos
  generalize (Numeral.ofNat n).length - precision = surplus at hpos ⊢
  rw [show (maxExponent + 1 - (surplus : Int)).toNat = 1000000 - surplus by unfold maxExponent; omega]
  rcases Nat.le_total surplus 1000000 with hsmall | hlarge
  · have hsplit : tenPow 1000000 = tenPow (1000000 - surplus) * 10 ^ surplus := by
      rw [tenPow, tenPow, Nat.pow_eq, Nat.pow_eq, ← Nat.pow_add, Nat.sub_add_cancel hsmall]
    rw [hsplit]
    exact (Nat.mul_le_mul_right_iff (Nat.pow_pos (by decide))).symm
  · rw [Nat.sub_eq_zero_of_le hlarge]
    refine iff_of_true hpos ?_
    exact (Nat.pow_le_pow_right (by decide) hlarge).trans (Nat.le_mul_of_pos_left _ hpos)

end Decimal

end ODataBrowser
