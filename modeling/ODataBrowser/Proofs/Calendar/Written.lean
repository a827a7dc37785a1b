import ODataBrowser.Proofs.Query.Instant

/-!
# Timestamps as they are written

A timestamp has a text for each fraction of a second and each zone that it is written with (`Timestamp.written`).
-/

namespace ODataBrowser

/-! ## Digits -/

theorem exists_digitText_eq {cs : List Char} (h : ∀ c ∈ cs, c.isDigit = true) : ∃ ds, digitText ds = cs := by
  induction cs with
  | nil => exact ⟨[], rfl⟩
  | cons c cs ih =>
    rw [List.forall_mem_cons] at h
    obtain ⟨ds, rfl⟩ := ih h.2
    have hdigit : ∃ d : Fin 10, Nat.digitChar d.val = c :=
      Text.forall_of_isDigit (P := fun c => ∃ d : Fin 10, Nat.digitChar d.val = c) (fun d hd => ⟨⟨d, hd⟩, rfl⟩) c h.1
    obtain ⟨d, rfl⟩ := hdigit
    exact ⟨d :: ds, rfl⟩

/-- A field of up to six digits is a fraction of a second. -/
theorem exists_fraction_eq (width n : Nat) (hwidth : 0 < width) (hsix : width ≤ 6) (hn : n < 10 ^ width) :
    ∃ ds, (∀ mark, WrittenTimestamp.fractionText mark ds = mark :: Numeral.padded width n) ∧ ds.length = width ∧
      firstDigits 6 ds = n * 10 ^ (6 - width) := by
  obtain ⟨ds, hds⟩ := exists_digitText_eq (Numeral.isDigits_padded width n).2
  have hlength : ds.length = width := by
    rw [← Numeral.length_padded hwidth hn, ← hds, digitText, List.length_map]
  have htake := IsoText.ofDigitChars_take 6 ds 0
  rw [hlength, Nat.min_eq_right hsix, hds, List.take_of_length_le (Numeral.length_padded hwidth hn).le,
    Numeral.ofDigitChars_padded, Nat.zero_mul, Nat.zero_add] at htake
  refine ⟨ds, ?_, hlength, htake.symm⟩
  intro mark
  have hne : ds ≠ [] := List.ne_nil_of_length_pos (hlength ▸ hwidth)
  rw [WrittenTimestamp.fractionText, if_neg (by simpa using hne), hds]

/-- A fraction with no more digits is a number of units of their last place. -/
theorem fractionValue_mul_pow {count : Nat} {ds : List (Fin 10)} (h : ds.length ≤ count) :
    fractionValue ds * 10 ^ count = firstDigits count ds := by
  induction ds generalizing count with
  | nil => cases count <;> simp [fractionValue, firstDigits]
  | cons d ds ih =>
    cases count with
    | zero => simp at h
    | succ count =>
      rw [fractionValue, pow_succ', ← mul_assoc, div_mul_cancel₀ _ (by norm_num), add_mul,
        ih (Nat.le_of_succ_le_succ h), firstDigits]
      push_cast
      rfl

/-- An instant with at most six digits behind the second is a number of microseconds. -/
theorem WrittenTimestamp.instant_mul_pow {t : WrittenTimestamp} (h : t.fraction.length ≤ 6) :
    t.instant * 10 ^ 6 = ⌊t.instant * 10 ^ 6⌋ := by
  rw [t.floor_instant, instant, add_mul, fractionValue_mul_pow h]
  push_cast
  rfl

namespace Timestamp

/-! ## Written timestamps -/

/-- The timestamp written with the given digits behind the point and the given zone. -/
def written (t : Timestamp) (fraction : List (Fin 10)) (zone : WrittenZone) : WrittenTimestamp where
  date := t.date
  hour := t.hour
  minute := t.minute
  second := t.second
  mark := '.'
  fraction := fraction
  zone := zone
  isTimeOfDay := by
    have h := t.micros_lt
    unfold microsPerDay at h
    unfold hour minute second
    omega
  isMark := .inl rfl

/-- A timestamp that is written as it is denotes what its digits and its zone make of it. -/
theorem floor_instant_written (t : Timestamp) (fraction : List (Fin 10)) (zone : WrittenZone) :
    ⌊(t.written fraction zone).instant * 10 ^ 6⌋ =
      t.localMicros - t.microsecond + firstDigits 6 fraction - 60000000 * zone.minutes := by
  rw [WrittenTimestamp.floor_instant, WrittenTimestamp.wholeSeconds, localMicros]
  unfold written hour minute second microsecond microsPerDay
  dsimp only
  omega

/-- An offset of whole minutes is written as a zone. -/
theorem exists_zone_eq {minutes : Int} (h : minutes.natAbs < 1440) :
    ∃ zone : WrittenZone, zone.text = offsetText (60000000 * minutes) ∧ zone.minutes = minutes := by
  refine ⟨.offset (60000000 * minutes < 0) (minutes.natAbs / 60) (minutes.natAbs % 60) (by omega), ?_, ?_⟩
  · have hseconds : (60000000 * minutes).natAbs / 1000000 % 60 = 0 := by omega
    have hmicros : (60000000 * minutes).natAbs % 1000000 = 0 := by omega
    have hhours : (60000000 * minutes).natAbs / 3600000000 = minutes.natAbs / 60 := by omega
    have hminutes : (60000000 * minutes).natAbs / 60000000 % 60 = minutes.natAbs % 60 := by omega
    simp [WrittenZone.text, offsetText, hseconds, hmicros, hhours, hminutes]
  · unfold WrittenZone.minutes
    dsimp only
    split
    case isTrue hbehind =>
      rw [decide_eq_true_eq] at hbehind
      omega
    case isFalse hbehind =>
      rw [decide_eq_true_eq] at hbehind
      omega

/-- The ISO text of a timestamp in such a zone is a written timestamp of the same instant. -/
theorem exists_text_eq_isoText {t : Timestamp} {minutes : Int} (h : t.offset = some (60000000 * minutes)) :
    ∃ w : WrittenTimestamp, w.text = t.isoText 'T' ∧ ⌊w.instant * 10 ^ 6⌋ = t.instant := by
  have hminutes : minutes.natAbs < 1440 := by
    have hlt := t.offset_lt _ h
    unfold microsPerDay at hlt
    omega
  obtain ⟨zone, hzone, hvalue⟩ := exists_zone_eq hminutes
  obtain ⟨ds, hds, hfirst⟩ : ∃ ds, WrittenTimestamp.fractionText '.' ds =
      (if t.microsecond = 0 then [] else '.' :: Numeral.padded 6 t.microsecond) ∧
        firstDigits 6 ds = t.microsecond := by
    rcases Nat.eq_zero_or_pos t.microsecond with hzero | hpos
    · exact ⟨[], by rw [hzero]; rfl, hzero.symm⟩
    · obtain ⟨ds, hds, -, hfirst⟩ := exists_fraction_eq 6 t.microsecond (by decide) le_rfl
        (Nat.mod_lt _ (by decide))
      exact ⟨ds, by rw [hds, if_neg hpos.ne'], hfirst.trans (Nat.mul_one _)⟩
  refine ⟨t.written ds zone, ?_, ?_⟩
  · rw [WrittenTimestamp.text, isoText, h]
    dsimp only [written]
    rw [hds, hzone]
    simp [WrittenTimestamp.stem, WrittenTimestamp.clockText]
  · rw [floor_instant_written, hfirst, hvalue, instant, h]
    dsimp only [Option.getD]
    omega

end Timestamp

end ODataBrowser
