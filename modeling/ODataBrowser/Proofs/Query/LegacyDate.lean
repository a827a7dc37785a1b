import ODataBrowser.CellText
import ODataBrowser.Proofs.Calendar.Epoch
import ODataBrowser.Proofs.Calendar.LegacyDate
import ODataBrowser.Proofs.Calendar.Written

/-!
# Legacy dates in cells and filters

A legacy date counts milliseconds, which are read as a number is in a filter. Up to the year 2242 the instant is exactly
the one counted, and later the double may miss it (`readLegacyDate_of_millis`). What a cell shows of the date denotes
the instant that was read, so it selects the same instant in a filter (`encodeDate_of_readLegacyDate`).
-/

namespace ODataBrowser

open Query

/-! ## Universal times -/

theorem Timestamp.instant_of_ofLocalMicros? {n : Int} {t : Timestamp} (h : ofLocalMicros? n (some 0) = some t) :
    t.instant = n := by
  rw [instant, localMicros_of_ofLocalMicros? h, (ofLocalMicros?_spec h).2.2.2]
  exact Int.sub_zero n

theorem Timestamp.inZone?_zero_of_instant {n : Int} {r t : Timestamp} (h : ofLocalMicros? n (some 0) = some t)
    (hr : r.instant = n) : r.inZone? 0 = some t := by
  rw [inZone?, hr, Int.add_zero, h]

/-! ## The instant of a count -/

theorem readLegacyDate_text (w : WrittenLegacyDate) :
    readLegacyDate (.text (String.ofList w.text)) =
      if w.parts.isOffsetTooLong then .error .unreadable else .ok w.parts.timestamp? := by
  rw [readLegacyDate, String.toList_ofList, LegacyDate.readParts_text]

/-- What is read as a legacy date is one whose offset is shorter than a day. -/
theorem exists_of_readLegacyDate {v : Value} {t : Timestamp} (h : readLegacyDate v = .ok (some t)) :
    ∃ w : WrittenLegacyDate, v = .text (String.ofList w.text) ∧ w.parts.timestamp? = some t := by
  unfold readLegacyDate at h
  split at h
  case h_2 => exact nomatch Except.ok.inj h
  case h_1 s =>
    split at h
    case h_1 => exact nomatch Except.ok.inj h
    case h_2 p hp =>
      split at h
      case isTrue => contradiction
      case isFalse =>
        obtain ⟨w, hw, rfl⟩ := LegacyDate.exists_of_readParts hp
        exact ⟨w, by rw [← hw, String.ofList_toList], Except.ok.inj h⟩

/-- **The instant of a legacy date** and of the same count in a filter is at most fifteen microseconds from the one
counted. It is that one just if the double of the seconds drifts from the count by less than half a microsecond, and its
milliseconds are those counted just if the double is not further behind. -/
theorem readLegacyDate_of_millis {millis : Int} {t : Timestamp}
    (h : Timestamp.ofLocalMicros? (Epoch.origin + 1000 * millis) (some 0) = some t) :
    ∃ u, readLegacyDate (.text (String.ofList ("/Date(".toList ++ (Numeral.ofInt millis ++ ")/".toList)))) =
        .ok (some u) ∧
      encodeDate (.int millis) = .ok ('\'' :: timestampText u ++ ['\'']) ∧
      (u.instant - t.instant).natAbs ≤ 15 ∧
      (u = t ↔ 2000 * (Epoch.drift millis).natAbs < 2 ^ Epoch.secondPlaces millis) ∧
      (timestampText u = timestampText t ↔ -2 ^ Epoch.secondPlaces millis < 2000 * Epoch.drift millis) ∧
      (millis.natAbs < 1000 * 2 ^ 33 → u = t) := by
  obtain ⟨u, late, hread, hu, hlate, hzero, hpos⟩ := Epoch.exists_ofIntMillis? h
  have hutc : u.inZone? 0 = some u := Timestamp.inZone?_zero_of_instant hu (Timestamp.instant_of_ofLocalMicros? hu)
  have hsame : u = t ↔ late = 0 := by
    constructor
    · rintro rfl
      have hinstant := Timestamp.instant_of_ofLocalMicros? hu
      rw [Timestamp.instant_of_ofLocalMicros? h] at hinstant
      omega
    · rintro rfl
      rw [Int.add_zero, h] at hu
      exact (Option.some.inj hu).symm
  refine ⟨u, ?_, encodeDate_of_toTimestamp hread hutc, ?_, hsame.trans hzero, ?_, ?_⟩
  · have hrange := Epoch.range_of_ofLocalMicros? h
    -- A count in the calendar is far below the numbers whose digits are too many to be read.
    have hlength : ¬Numeral.maxDigits < (WrittenLegacyDate.ofMillis millis).digits.length := by
      have hdigits : (Numeral.ofNat millis.natAbs).length ≤ 15 :=
        (Nat.length_toDigits_le_iff (by decide) (by decide)).2 (by omega)
      exact Nat.not_lt.2 (hdigits.trans (by decide))
    rw [← WrittenLegacyDate.text_ofMillis, readLegacyDate_text, LegacyDate.timestamp?_parts, if_neg hlength,
      WrittenLegacyDate.millis_ofMillis, hread]
    exact congrArg Except.ok hutc
  · rw [Timestamp.instant_of_ofLocalMicros? hu, Timestamp.instant_of_ofLocalMicros? h]
    omega
  · rw [timestampText_eq_iff, date_eq_and_millis_eq_iff hu h, ← hpos]
    have horigin := Epoch.origin_eq
    omega
  · intro hsmall
    have hdrift := Epoch.natAbs_drift_le millis
    have hplaces : 2 ^ 20 ≤ 2 ^ Epoch.secondPlaces millis :=
      Nat.pow_le_pow_right Nat.two_pos (Epoch.le_secondPlaces (by decide) hsmall)
    rw [hsame, hzero]
    omega

/-- A count in the year 2024 is read exactly. -/
theorem readLegacyDate_of_millis_of_leap_day :
    let t : Timestamp := ⟨⟨2024, 2, 29, by decide⟩, 84600500000, some 0, by decide, by decide⟩
    Timestamp.ofLocalMicros? (Epoch.origin + 1000 * 1709249400500) (some 0) = some t ∧
      readLegacyDate (.text "/Date(1709249400500)/") = .ok (some t) ∧
      encodeDate (.int 1709249400500) = .ok ('\'' :: timestampText t ++ ['\'']) := by
  intro t
  have ht : Timestamp.ofLocalMicros? (Epoch.origin + 1000 * 1709249400500) (some 0) = some t := by decide
  obtain ⟨u, hread, hliteral, -, -, -, hsmall⟩ := readLegacyDate_of_millis ht
  obtain rfl := hsmall (by decide)
  exact ⟨ht, hread, hliteral⟩

/-- The last millisecond of the calendar is read as an instant seven microseconds before it, and written as the
millisecond before. -/
theorem readLegacyDate_misses_millis :
    let last : Timestamp := ⟨⟨9999, 12, 31, by decide⟩, 86399999000, some 0, by decide, by decide⟩
    Timestamp.ofLocalMicros? (Epoch.origin + 1000 * 253402300799999) (some 0) = some last ∧
      (readLegacyDate (.text "/Date(253402300799999)/")).toOption.join.map Timestamp.instant =
        some (last.instant - 7) ∧
      (encodeDate (.int 253402300799999)).toOption = some "'9999-12-31T23:59:59.998Z'".toList := by
  decide

/-! ## What a cell shows -/

theorem Epoch.exists_of_ofIntMillis? {millis : Int} {t : Timestamp} (h : ofIntMillis? millis = some t) :
    ∃ n, Timestamp.ofLocalMicros? n (some 0) = some t := by
  obtain ⟨x, -, h⟩ := Option.bind_eq_some_iff.1 h
  obtain ⟨micros, -, h⟩ := Option.bind_eq_some_iff.1 h
  exact ⟨origin + micros, h⟩

/-- **What a cell shows of a legacy date** selects in a filter the instant that was read, as the timestamp itself and
the bare count do; and the instant is that of the same date without an offset. -/
theorem encodeDate_of_readLegacyDate {v : Value} {t : Timestamp} (h : readLegacyDate v = .ok (some t)) :
    ∃ (w : WrittenLegacyDate) (u : Timestamp) (shown : List Char),
      v = .text (String.ofList w.text) ∧
      readLegacyDate (.text (String.ofList w.bare.text)) = .ok (some u) ∧ u.instant = t.instant ∧
      cellText v = .ok shown ∧
      encodeDate (.text (String.ofList shown)) = .ok ('\'' :: timestampText u ++ ['\'']) ∧
      encodeDate (.timestamp t) = .ok ('\'' :: timestampText u ++ ['\'']) ∧
      encodeDate (.int w.millis) = .ok ('\'' :: timestampText u ++ ['\'']) := by
  obtain ⟨w, rfl, hparts⟩ := exists_of_readLegacyDate h
  rw [LegacyDate.timestamp?_parts] at hparts
  split at hparts
  case isTrue => contradiction
  case isFalse hlength =>
    obtain ⟨u, hu, hzone⟩ := Option.bind_eq_some_iff.1 hparts
    obtain ⟨n, hn⟩ := Epoch.exists_of_ofIntMillis? hu
    -- The offset moves what is shown and not the instant, so all four readings meet in universal time.
    have hinstant := Timestamp.instant_of_inZone? hzone
    have hutc {r : Timestamp} (hr : r.instant = t.instant) : r.inZone? 0 = some u :=
      Timestamp.inZone?_zero_of_instant hn (by rw [hr, hinstant, Timestamp.instant_of_ofLocalMicros? hn])
    obtain ⟨minutes, hminutes⟩ := LegacyDate.exists_offsetMicros_eq w.parts
    have hoffset := (Timestamp.ofLocalMicros?_spec hzone).2.2.2
    rw [hminutes] at hoffset
    obtain ⟨shown, hshown, hdenoted⟩ := Timestamp.exists_text_eq_isoText hoffset
    obtain ⟨r, hr, hr'⟩ := exists_readTimestamp shown
    refine ⟨w, u, t.isoText 'T', rfl, ?_, hinstant.symm, ?_, ?_, ?_, ?_⟩
    · have hbare : w.bare.parts.timestamp? = some u := by
        rw [LegacyDate.timestamp?_parts, WrittenLegacyDate.bare, if_neg hlength]
        exact Option.bind_eq_some_iff.2 ⟨u, hu, hutc hinstant.symm⟩
      rw [readLegacyDate_text, hbare]
      rfl
    · rw [cellText, h]
      · rfl
      · nofun
      · nofun
    · refine encodeDate_of_toTimestamp (r := r) ?_ (hutc (hr'.trans hdenoted))
      rw [toTimestamp_text, ← hshown, strip_text, hr]
    · exact encodeDate_of_toTimestamp rfl (hutc rfl)
    · exact encodeDate_of_toTimestamp hu (hutc hinstant.symm)

/-- A date that is shown ninety-one minutes and an hour west of universal time. -/
theorem encodeDate_of_readLegacyDate_of_west :
    let v : Value := .text " /Date(1709249400500-0191)/"
    let t : Timestamp := ⟨⟨2024, 2, 29, by decide⟩, 75540500000, some (-9060000000), by decide, by decide⟩
    let shown := "2024-02-29T20:59:00.500000-02:31"
    readLegacyDate v = .ok (some t) ∧ cellText v = .ok shown.toList ∧
      encodeDate (.text shown) = encodeDate (.timestamp t) := by
  intro v t shown
  have h : readLegacyDate v = .ok (some t) := by rfl
  have htext : t.isoText 'T' = shown.toList := by decide
  have hcell : cellText v = .ok (t.isoText 'T') := by rfl
  rw [htext] at hcell
  obtain ⟨w, u, shown', -, -, -, hcell', hshown, htimestamp, -⟩ := encodeDate_of_readLegacyDate h
  obtain rfl := Except.ok.inj (hcell.symm.trans hcell')
  rw [String.ofList_toList] at hshown
  exact ⟨h, hcell, hshown.trans htimestamp.symm⟩

end ODataBrowser
