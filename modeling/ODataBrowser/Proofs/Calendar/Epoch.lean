import Mathlib.Algebra.Order.Group.Unbundled.Int
import ODataBrowser.Calendar.Epoch
import ODataBrowser.Proofs.Calendar.Ordinal
import ODataBrowser.Proofs.Number.Nearest
import ODataBrowser.Proofs.Number.Quotient

/-!
# Milliseconds from the epoch

A count of milliseconds becomes a double of seconds, whose last place is a binary fraction of a second and from `2 ^ 33`
seconds on, in the year 2242, longer than a microsecond. How far this double drifts from the count (`Epoch.drift`) says
whether the instant read from it is the one counted, and whether it is as early (`Epoch.exists_micros_near`,
`Epoch.eq_zero_iff_of_near`).
-/

namespace ODataBrowser.Epoch

open Binary64

/-! ## Seconds as doubles -/

/-- The binary places behind the point of a double of as many seconds; below one second there are more. -/
def secondPlaces (millis : Int) : Nat :=
  52 - (millis.natAbs / 1000).log2

/-- How much later the double nearest to a count of milliseconds is than the count, in thousandths of its last
place. -/
def drift (millis : Int) : Int :=
  let scaled := millis.natAbs * 2 ^ secondPlaces millis
  millis.sign * (nearestMultiple scaled 1000 - scaled)

/-- The fraction of a second in microseconds is rounded by less than a thousandth of a thousandth of one. -/
theorem exists_fraction_near (n : Nat) {d : Nat} (hd : 0 < d) :
    ∃ m e, ofRatio false (n % d * 1000000) d = .finite false m e ∧
      |(m : ℚ) * 2 ^ e - (n % d : Nat) / d * 10 ^ 6| ≤ 1 / 2 ^ 34 := by
  have hpos : (0 : ℚ) < d := Nat.cast_pos.2 hd
  rcases Nat.eq_zero_or_pos (n % d) with hzero | hrest
  · refine ⟨0, -1074, ?_, ?_⟩
    · rw [hzero, Nat.zero_mul]
      rfl
    · rw [hzero]
      norm_num
  · have hn : 0 < n % d * 1000000 := Nat.mul_pos hrest (by decide)
    have hquotient : ((n % d * 1000000 : Nat) : ℚ) / d = (n % d : Nat) / d * 10 ^ 6 := by
      rw [Nat.cast_mul, mul_div_right_comm]
      norm_num
    have hone : ((n % d : Nat) : ℚ) / d < 1 := (div_lt_one hpos).2 (by exact_mod_cast Nat.mod_lt n hd)
    have hexponent : exponentOf (n % d * 1000000) d < -32 := by
      refine exponentOf_lt hn hd (by decide) ?_
      rw [hquotient]
      norm_num
      linarith
    obtain ⟨m, e, hvalue, hnear⟩ := exists_ofRatio_near false hn hd (by omega)
    have hunit : (2 : ℚ) ^ exponentOf (n % d * 1000000) d ≤ 2 ^ (-33 : Int) :=
      zpow_le_zpow_right₀ one_le_two (by omega)
    refine ⟨m, e, hvalue, ?_⟩
    rw [hquotient] at hnear
    refine hnear.trans ((div_le_div_of_nonneg_right hunit (by norm_num)).trans ?_)
    norm_num

theorem microsOfSeconds?_eq (negative : Bool) {m m' n d n' d' : Nat} {e e' : Int} (hseconds : magnitude m e = (n, d))
    (hrest : ofRatio false (n % d * 1000000) d = .finite false m' e') (hfraction : magnitude m' e' = (n', d')) :
    microsOfSeconds? (.finite negative m e) = some (signed negative (n / d * 1000000 + roundHalfEven n' d')) := by
  rw [microsOfSeconds?, hseconds]
  simp only [hrest, hfraction, signed]

/-- A number of seconds is rounded to the nearest microsecond, up to the rounding of its fraction. -/
theorem exists_microsOfSeconds?_near (negative : Bool) (m : Nat) (e : Int) :
    ∃ micros : Nat, microsOfSeconds? (.finite negative m e) = some (signed negative micros) ∧
      |(micros : ℚ) - m * 2 ^ e * 10 ^ 6| ≤ 1 / 2 + 1 / 2 ^ 34 := by
  obtain ⟨hd, hvalue⟩ := magnitude_spec m e
  obtain ⟨n, d, hparts⟩ : ∃ n d, magnitude m e = (n, d) := ⟨_, _, rfl⟩
  rw [hparts] at hd hvalue
  obtain ⟨m', e', hfraction, hnear⟩ := exists_fraction_near n hd
  obtain ⟨hd', hvalue'⟩ := magnitude_spec m' e'
  obtain ⟨n', d', hparts'⟩ : ∃ n' d', magnitude m' e' = (n', d') := ⟨_, _, rfl⟩
  rw [hparts'] at hd' hvalue'
  have hround := abs_roundHalfEven_sub_le n' hd'
  dsimp only at hvalue hvalue' hnear
  rw [hvalue'] at hround
  refine ⟨n / d * 1000000 + roundHalfEven n' d', ?_, ?_⟩
  · exact microsOfSeconds?_eq negative hparts hfraction hparts'
  · have hpos : (0 : ℚ) < d := Nat.cast_pos.2 hd
    have hsplit : (n : ℚ) / d = (n / d : Nat) + (n % d : Nat) / d := by
      have hn : (n : ℚ) = d * (n / d : Nat) + (n % d : Nat) := by exact_mod_cast (Nat.div_add_mod n d).symm
      rw [div_eq_iff hpos.ne', add_mul, div_mul_cancel₀ _ hpos.ne', mul_comm, ← hn]
    rw [← hvalue, hsplit]
    push_cast
    rw [abs_le] at hround hnear ⊢
    constructor <;> linarith [hround.1, hround.2, hnear.1, hnear.2]

/-! ## Milliseconds as doubles -/

/-- A count of milliseconds is a double, which is divided as such. -/
theorem exists_divNat_eq {millis : Int} (hne : millis ≠ 0) (h : millis.natAbs < 2 ^ 53) :
    ∃ x c, 0 < c ∧ ofInt? millis = some x ∧
      x.divNat 1000 = ofRatio (millis < 0) (millis.natAbs * c) (1000 * c) := by
  have hpos : millis.natAbs ≠ 0 := Int.natAbs_ne_zero.2 hne
  have hlog : millis.natAbs.log2 ≤ 52 := Nat.le_of_lt_succ ((Nat.log2_lt hpos).2 h)
  obtain ⟨c, hc⟩ : ∃ c, 2 ^ (52 - millis.natAbs.log2) = c := ⟨_, rfl⟩
  refine ⟨.finite (millis < 0) (millis.natAbs * c) (millis.natAbs.log2 - 52), c, hc ▸ Nat.two_pow_pos _, ?_, ?_⟩
  · rw [ofInt?, ofRatio_of_small _ hpos hlog, hc]
  · rw [divNat, magnitude_sub _ hlog, hc, Nat.mul_comm 1000]

/-- What the rounding of the fraction adds is too small to matter beside the last place. -/
theorem natAbs_le_of_abs_le {k micros r : Nat} (hk : k ≤ 19)
    (h : |(micros : ℚ) - r * (2 ^ k)⁻¹ * 10 ^ 6| ≤ 1 / 2 + 1 / 2 ^ 34) :
    (2 * 2 ^ k * (micros : Int) - 2000 * (1000 * r)).natAbs ≤ 2 ^ k := by
  have hplace : (2 : ℚ) ^ k ≤ 2 ^ 19 := pow_le_pow_right₀ one_le_two hk
  have hpos : (0 : ℚ) < 2 ^ k := by positivity
  have hshift : 2 * 2 ^ k * (micros : ℚ) - 2000 * (1000 * r) =
      2 * 2 ^ k * (micros - r * (2 ^ k)⁻¹ * 10 ^ 6) := by
    field_simp
    ring
  have hnear : |2 * 2 ^ k * (micros : ℚ) - 2000 * (1000 * r)| < 2 ^ k + 1 := by
    rw [hshift, abs_mul, abs_of_pos (by positivity)]
    refine (mul_le_mul_of_nonneg_left h (by positivity)).trans_lt ?_
    norm_num at hplace ⊢
    linarith
  have hint : |2 * 2 ^ k * (micros : Int) - 2000 * (1000 * r)| < 2 ^ k + 1 := by exact_mod_cast hnear
  rw [Int.abs_eq_natAbs] at hint
  exact Nat.lt_succ_iff.1 (by exact_mod_cast hint)

/-- A factor of the count and of the divisor is of no account. -/
theorem cast_mul_div_mul (n : Nat) {c : Nat} (hc : 0 < c) : ((n * c : Nat) : ℚ) / (1000 * c : Nat) = n / 1000 := by
  rw [Nat.cast_mul, Nat.cast_mul, mul_div_mul_right _ _ (Nat.cast_ne_zero.2 hc.ne')]
  norm_num

section

variable {n c : Nat} (hn : 0 < n) (hc : 0 < c)

include hn hc

/-- Up to `2 ^ 33` seconds, the microseconds read from a count of milliseconds are those counted. -/
theorem microsOfSeconds?_of_small (negative : Bool) (h : n < 1000 * 2 ^ 33) :
    microsOfSeconds? (ofRatio negative (n * c) (1000 * c)) = some (signed negative (1000 * n)) := by
  have hn' : 0 < n * c := Nat.mul_pos hn hc
  have hc' : 0 < 1000 * c := Nat.mul_pos (by decide) hc
  have hquotient := cast_mul_div_mul n hc
  have hless : (n : ℚ) < 8589934592000 := lt_of_lt_of_eq (Nat.cast_lt.2 h) (by norm_num)
  have hexponent : exponentOf (n * c) (1000 * c) < -19 := by
    refine exponentOf_lt hn' hc' (by decide) ?_
    rw [hquotient]
    norm_num
    linarith
  obtain ⟨m, e, hvalue, hnear⟩ := exists_ofRatio_near negative hn' hc' (by omega)
  obtain ⟨micros, hmicros, hround⟩ := exists_microsOfSeconds?_near negative m e
  have hunit : (2 : ℚ) ^ exponentOf (n * c) (1000 * c) ≤ 2 ^ (-20 : Int) := zpow_le_zpow_right₀ one_le_two (by omega)
  have hexact : micros = 1000 * n := by
    rw [hquotient] at hnear
    have hclose : |(micros : ℚ) - 1000 * n| < 1 := by
      norm_num at hunit hround
      rw [abs_le] at hnear hround
      rw [abs_lt]
      constructor <;> linarith [hnear.1, hnear.2, hround.1, hround.2]
    have hint : |(micros : Int) - 1000 * n| < 1 := by exact_mod_cast hclose
    rw [Int.abs_lt_one_iff] at hint
    omega
  rw [hvalue, hmicros, hexact]

/-- From one second on, the places behind the point are those of the double that is rounded. -/
theorem exponentOf_seconds {k : Nat} (hlow : n / 1000 ≠ 0) (hhigh : n < 1000 * 2 ^ 38)
    (hk : 52 - (n / 1000).log2 = k) : exponentOf (n * c) (1000 * c) = -k := by
  have hn' : 0 < n * c := Nat.mul_pos hn hc
  have hc' : 0 < 1000 * c := Nat.mul_pos (by decide) hc
  have hlog : (n / 1000).log2 < 38 := (Nat.log2_lt hlow).2 (by omega)
  have hself : 2 ^ (n / 1000).log2 ≤ n / 1000 := Nat.log2_self_le hlow
  have hlt : n / 1000 < 2 ^ ((n / 1000).log2 + 1) := Nat.lt_log2_self
  generalize (n / 1000).log2 = l at hlog hself hlt hk
  have hfrom : (2 : ℚ) ^ (-(k : Int) + 52) ≤ n / 1000 := by
    rw [le_div_iff₀ (by norm_num), show -(k : Int) + 52 = (l : Nat) by omega, zpow_natCast]
    exact_mod_cast (Nat.le_div_iff_mul_le (by decide)).1 hself
  have hbelow : (n : ℚ) / 1000 < 2 ^ (-(k : Int) + 1 + 52) := by
    rw [div_lt_iff₀ (by norm_num), show -(k : Int) + 1 + 52 = (l + 1 : Nat) by omega, zpow_natCast]
    exact_mod_cast (Nat.div_lt_iff_lt_mul (by decide)).1 hlt
  rw [← cast_mul_div_mul n hc] at hfrom hbelow
  have hge := le_exponentOf hn' hc' hfrom
  have hle := exponentOf_lt hn' hc' (by omega) hbelow
  omega

/-- From `2 ^ 33` seconds on, they are rounded from the double that is nearest. -/
theorem exists_microsOfSeconds?_of_large (negative : Bool) (hlow : 1000 * 2 ^ 33 ≤ n) (hhigh : n < 1000 * 2 ^ 38) :
    ∃ micros : Nat, microsOfSeconds? (ofRatio negative (n * c) (1000 * c)) = some (signed negative micros) ∧
      (2 * 2 ^ (52 - (n / 1000).log2) * (micros : Int) -
        2000 * (1000 * roundHalfEven (n * 2 ^ (52 - (n / 1000).log2)) 1000)).natAbs ≤ 2 ^ (52 - (n / 1000).log2) := by
  have hseconds : n / 1000 ≠ 0 := by omega
  have hlog : 33 ≤ (n / 1000).log2 := (Nat.le_log2 hseconds).2 (by omega)
  have hlog' : (n / 1000).log2 < 38 := (Nat.log2_lt hseconds).2 (by omega)
  obtain ⟨k, hk⟩ : ∃ k, 52 - (n / 1000).log2 = k := ⟨_, rfl⟩
  have hexponent := exponentOf_seconds hn hc hseconds hhigh hk
  have hscaled : roundHalfEven (scaledRatio (n * c) (1000 * c) (-k)).1 (scaledRatio (n * c) (1000 * c) (-k)).2 =
      roundHalfEven (n * 2 ^ k) 1000 := by
    rw [scaledRatio, if_neg (by omega), show (-(-(k : Int))).toNat = k by omega, Nat.mul_right_comm]
    exact roundHalfEven_mul_right _ _ hc
  obtain ⟨m, e, hvalue, heq⟩ := exists_ofRatio_eq (d := 1000 * c) negative (Nat.mul_pos hn hc) (by omega)
  rw [hexponent, hscaled, zpow_neg, zpow_natCast] at heq
  obtain ⟨micros, hmicros, hround⟩ := exists_microsOfSeconds?_near negative m e
  refine ⟨micros, hvalue ▸ hmicros, ?_⟩
  rw [heq] at hround
  rw [hk]
  exact natAbs_le_of_abs_le (by omega) hround

end

theorem le_secondPlaces {millis : Int} {l : Nat} (hl : 0 < l) (h : millis.natAbs < 1000 * 2 ^ l) :
    53 - l ≤ secondPlaces millis := by
  unfold secondPlaces
  rcases Nat.eq_zero_or_pos (millis.natAbs / 1000) with hzero | hpos
  · rw [hzero, show Nat.log2 0 = 0 by decide]
    omega
  · have hlog := (Nat.log2_lt hpos.ne').2 ((Nat.div_lt_iff_lt_mul (by decide)).2 (Nat.mul_comm 1000 _ ▸ h))
    omega

/-- The drift is at most half a unit in the last place. -/
theorem natAbs_drift_le (millis : Int) : (drift millis).natAbs ≤ 500 := by
  have hnear := two_mul_natAbs_roundHalfEven_le (millis.natAbs * 2 ^ secondPlaces millis) (show 0 < 1000 by decide)
  have hsign : millis.sign.natAbs ≤ 1 := by
    rw [Int.natAbs_sign]
    split <;> decide
  unfold drift nearestMultiple
  dsimp only
  rw [Int.natAbs_mul, Nat.cast_mul (_ : Nat) 1000]
  refine (Nat.mul_le_mul_right _ hsign).trans ?_
  omega

theorem signed_eq_sign_mul {millis : Int} (hne : millis ≠ 0) (n : Nat) :
    signed (millis < 0) n = millis.sign * n := by
  unfold signed
  rcases lt_or_gt_of_ne hne with hneg | hpos
  · rw [Int.sign_eq_neg_one_of_neg hneg]
    simp [hneg]
  · rw [Int.sign_eq_one_of_pos hpos]
    simp [not_lt.2 hpos.le]

/-- **The microseconds read from a count of milliseconds** are those nearest to the count and its drift. -/
theorem exists_micros_near {millis : Int} (h : millis.natAbs < 1000 * 2 ^ 38) :
    ∃ x micros, ofInt? millis = some x ∧ microsOfSeconds? (x.divNat 1000) = some micros ∧
      (2 * 2 ^ secondPlaces millis * (micros - 1000 * millis) - 2000 * drift millis).natAbs ≤
        2 ^ secondPlaces millis := by
  rcases eq_or_ne millis 0 with rfl | hne
  · exact ⟨_, 0, rfl, by decide +kernel, by decide +kernel⟩
  obtain ⟨x, c, hc, hx, hdiv⟩ := exists_divNat_eq hne (by omega)
  have hn : 0 < millis.natAbs := Int.natAbs_pos.2 hne
  rcases Nat.lt_or_ge millis.natAbs (1000 * 2 ^ 33) with hsmall | hlarge
  · refine ⟨x, 1000 * millis, hx, ?_, ?_⟩
    · rw [hdiv, microsOfSeconds?_of_small hn hc _ hsmall, signed_eq_sign_mul hne, Nat.cast_mul, mul_left_comm,
        Int.sign_mul_natAbs]
      rfl
    · have hdrift := natAbs_drift_le millis
      have hplaces : 2 ^ 20 ≤ 2 ^ secondPlaces millis :=
        Nat.pow_le_pow_right Nat.two_pos (le_secondPlaces (by decide) hsmall)
      rw [sub_self, mul_zero]
      omega
  · obtain ⟨micros, hmicros, hnear⟩ := exists_microsOfSeconds?_of_large hn hc (millis < 0) hlarge h
    refine ⟨x, millis.sign * micros, hx, ?_, ?_⟩
    · rw [hdiv, hmicros, signed_eq_sign_mul hne]
    · have hsign : millis.sign.natAbs = 1 := by rw [Int.natAbs_sign, if_neg hne]
      have hfactor : 2 * 2 ^ secondPlaces millis * (millis.sign * micros - 1000 * millis) - 2000 * drift millis =
          millis.sign * (2 * 2 ^ secondPlaces millis * (micros : Int) -
            2000 * (1000 * roundHalfEven (millis.natAbs * 2 ^ secondPlaces millis) 1000)) := by
        have hsplit : millis.sign * (millis.natAbs : Int) = millis := Int.sign_mul_natAbs millis
        unfold drift nearestMultiple
        dsimp only
        nth_rewrite 3 [← hsplit]
        push_cast
        ring
      rw [hfactor, Int.natAbs_mul, hsign, Nat.one_mul]
      exact hnear

/-- A difference near to a drift below half a microsecond is none, and one near to a drift that is not as much behind
is not negative. -/
theorem eq_zero_iff_of_near {k : Nat} {n δ : Int} (h : (2 * 2 ^ k * n - 2000 * δ).natAbs ≤ 2 ^ k) :
    (n = 0 ↔ 2000 * δ.natAbs < 2 ^ k) ∧ (0 ≤ n ↔ -2 ^ k < 2000 * δ) := by
  -- A power of two is no multiple of five, so there is no tie.
  have htie : 2000 * δ.natAbs ≠ 2 ^ k := by
    intro heq
    have hfive : 5 ∣ 2 ^ k := ⟨400 * δ.natAbs, by omega⟩
    have hcoprime : Nat.Coprime 5 (2 ^ k) := Nat.Coprime.pow_right k (by decide)
    exact absurd (Nat.Coprime.eq_one_of_dvd hcoprime hfive) (by decide)
  have hpos : 0 < 2 ^ k := Nat.two_pow_pos k
  have hcast : (2 : Int) ^ k = (2 ^ k : Nat) := by rw [Nat.cast_pow, Nat.cast_ofNat]
  rw [mul_assoc, hcast] at h
  rw [hcast]
  generalize 2 ^ k = unit at h htie hpos ⊢
  rcases lt_trichotomy n 0 with hneg | rfl | hlater
  · have hless : (unit : Int) * n ≤ -unit := by
      rw [← mul_neg_one]
      exact mul_le_mul_of_nonneg_left (by omega) (Nat.cast_nonneg unit)
    omega
  · omega
  · have hmore : (unit : Int) ≤ unit * n := le_mul_of_one_le_right (Nat.cast_nonneg unit) hlater
    omega

/-- In the calendar, the instant read differs from the one counted by at most fifteen microseconds. -/
theorem natAbs_le_of_near {k : Nat} {n δ : Int} (hk : 15 ≤ k) (hδ : δ.natAbs ≤ 500)
    (h : (2 * 2 ^ k * n - 2000 * δ).natAbs ≤ 2 ^ k) : n.natAbs ≤ 15 := by
  have hunit : 2 ^ 15 ≤ 2 ^ k := Nat.pow_le_pow_right Nat.two_pos hk
  have hcast : (2 : Int) ^ k = (2 ^ k : Nat) := by rw [Nat.cast_pow, Nat.cast_ofNat]
  rw [mul_assoc, hcast] at h
  generalize 2 ^ k = unit at h hunit
  have hproduct : unit * n.natAbs = ((unit : Int) * n).natAbs := by rw [Int.natAbs_mul, Int.natAbs_natCast]
  by_contra hlarge
  have hmore : unit * 16 ≤ unit * n.natAbs := Nat.mul_le_mul_left unit (by omega)
  omega

/-! ## Instants -/

theorem origin_eq : origin = 62135596800000000 := by
  decide

theorem end_eq : (Date.maxOrdinal * microsPerDay : Nat) = 315537897600000000 := by
  decide

/-- The counts of milliseconds within the calendar. -/
theorem range_of_ofLocalMicros? {millis : Int} {t : Timestamp}
    (h : Timestamp.ofLocalMicros? (origin + 1000 * millis) (some 0) = some t) :
    -62135596800000 ≤ millis ∧ millis < 253402300800000 := by
  have hrange : Timestamp.ofLocalMicros? (origin + 1000 * millis) (some 0) ≠ none := by simp [h]
  rw [Ne, Timestamp.ofLocalMicros?_eq_none_iff (by decide), origin_eq, end_eq] at hrange
  omega

/-- **The instant read from a count of milliseconds** in the calendar is the one counted just if the drift is below half
a microsecond, and as late just if the double is not further behind. -/
theorem exists_ofIntMillis? {millis : Int} {t : Timestamp}
    (h : Timestamp.ofLocalMicros? (origin + 1000 * millis) (some 0) = some t) :
    ∃ u late, ofIntMillis? millis = some u ∧
      Timestamp.ofLocalMicros? (origin + (1000 * millis + late)) (some 0) = some u ∧ late.natAbs ≤ 15 ∧
      (late = 0 ↔ 2000 * (drift millis).natAbs < 2 ^ secondPlaces millis) ∧
      (0 ≤ late ↔ -2 ^ secondPlaces millis < 2000 * drift millis) := by
  have hrange := range_of_ofLocalMicros? h
  have hbound : millis.natAbs < 1000 * 2 ^ 38 := by omega
  obtain ⟨x, micros, hx, hmicros, hnear⟩ := exists_micros_near hbound
  have hlate := natAbs_le_of_near (le_secondPlaces (l := 38) (by decide) hbound) (natAbs_drift_le millis) hnear
  obtain ⟨hzero, hpos⟩ := eq_zero_iff_of_near hnear
  -- The first instant of the calendar is a whole second, so it is not missed.
  have hfirst : millis = -62135596800000 → 0 ≤ micros - 1000 * millis := by
    rintro rfl
    exact hpos.2 (by decide)
  have hin : Timestamp.ofLocalMicros? (origin + micros) (some 0) ≠ none := by
    rw [Ne, Timestamp.ofLocalMicros?_eq_none_iff (by decide), origin_eq, end_eq]
    omega
  obtain ⟨u, hu⟩ := Option.ne_none_iff_exists'.1 hin
  refine ⟨u, micros - 1000 * millis, ?_, ?_, hlate, hzero, hpos⟩
  · rw [ofIntMillis?, hx, Option.bind_eq_bind, Option.bind_some, ofMillis?, hmicros, Option.bind_eq_bind,
      Option.bind_some, hu]
  · rw [add_sub_cancel, hu]

end ODataBrowser.Epoch
