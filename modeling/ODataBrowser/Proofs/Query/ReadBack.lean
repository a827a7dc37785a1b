import ODataBrowser.Proofs.Calendar.IsoPrefix
import ODataBrowser.Proofs.Calendar.Written

/-!
# Reading date literals back

The text between the quotes of a date literal is a timestamp in universal time with milliseconds. From the year 1000 on
it is an ISO timestamp, which is read as the instant that it shows; a smaller year is not filled up to four digits, so
that nothing is read (`encodeDate_readBack`).
-/

namespace ODataBrowser

/-! ## Years -/

theorem Numeral.padded_of_le {width n : Nat} (hwidth : 1 < width) (h : 10 ^ (width - 1) ≤ n) :
    padded width n = ofNat n := by
  have hlength : ¬(ofNat n).length ≤ width - 1 := fun hle =>
    Nat.not_lt.2 h ((Nat.length_toDigits_le_iff (by decide) (by omega)).1 hle)
  rw [padded, Nat.sub_eq_zero_of_le (by omega)]
  rfl

/-- A short field with a hyphen behind it is no year of four digits. -/
theorem not_isDigit_of_hyphen {front rest year rest' : List Char} (hfront : front.length < 4)
    (hyear : year.length = 4) (h : front ++ '-' :: rest = year ++ rest') : ¬∀ c ∈ year, c.isDigit = true :=
  fun hdigits => absurd (hdigits _ (mem_of_append_cons_eq h (hyear ▸ hfront))) (by decide)

namespace Query

open Text

/-! ## The text of a literal -/

/-- Whether a text shows an instant, in milliseconds from 0001-01-01T00:00:00Z, in the form
`YYYY-MM-DDTHH:MM:SS.mmmZ`. -/
def ShowsMillis (cs : List Char) (millis : Int) : Prop :=
  ∃ w : WrittenTimestamp, w.text = cs ∧ w.mark = '.' ∧ w.fraction.length = 3 ∧ w.zone = .zulu false ∧
    w.instant * 1000 = millis

/-- From the year 1000 on, the text of a universal time is a written timestamp. -/
theorem showsMillis_timestampText {t : Timestamp} (hzone : t.offset = some 0) (hyear : 1000 ≤ t.date.year) :
    ShowsMillis (timestampText t) (t.instant / 1000) := by
  obtain ⟨ds, hds, hlength, hvalue⟩ := exists_fraction_eq 3 (t.microsecond / 1000) (by decide) (by decide)
    (by unfold Timestamp.microsecond; omega)
  refine ⟨t.written ds (.zulu false), ?_, rfl, hlength, rfl, ?_⟩
  · have hpadded : Numeral.padded 4 t.date.year = Numeral.ofNat t.date.year := Numeral.padded_of_le (by decide) hyear
    simp [WrittenTimestamp.text, WrittenTimestamp.stem, WrittenTimestamp.clockText, WrittenZone.text,
      Timestamp.written, Date.isoText, timestampText, hpadded, hds]
  · have hfloor := t.floor_instant_written ds (.zulu false)
    have hexact := WrittenTimestamp.instant_mul_pow (t := t.written ds (.zulu false)) (hlength.trans_le (by decide))
    rw [hfloor, hvalue] at hexact
    have hmicros : t.localMicros - t.microsecond + (t.microsecond / 1000 * 10 ^ (6 - 3) : Nat) -
        60000000 * (WrittenZone.zulu false).minutes = 1000 * (t.instant / 1000) := by
      rw [Timestamp.instant, hzone, WrittenZone.minutes]
      unfold Timestamp.microsecond Timestamp.localMicros microsPerDay
      dsimp only [Option.getD]
      omega
    rw [hmicros] at hexact
    push_cast at hexact
    linarith

/-- The text of a timestamp begins with the digits of its year, before the year 1000 less than four. -/
theorem exists_timestampText_eq (t : Timestamp) :
    ∃ year rest, timestampText t = year ++ '-' :: (rest ++ ['Z']) ∧ IsDigits year ∧
      (t.date.year < 1000 → year.length < 4) := by
  refine ⟨Numeral.ofNat t.date.year, Numeral.padded 2 t.date.month ++ '-' :: Numeral.padded 2 t.date.day ++
    'T' :: Numeral.padded 2 t.hour ++ ':' :: Numeral.padded 2 t.minute ++ ':' :: Numeral.padded 2 t.second ++
    '.' :: Numeral.padded 3 (t.microsecond / 1000), ?_, isDigits_toDigits _, ?_⟩
  · simp [timestampText]
  · exact fun hyear => Nat.lt_succ_of_le ((Nat.length_toDigits_le_iff (by decide) (by decide)).2 hyear)

theorem not_showsMillis_timestampText {t : Timestamp} (hyear : t.date.year < 1000) (millis : Int) :
    ¬ShowsMillis (timestampText t) millis := by
  rintro ⟨w, hw, -⟩
  obtain ⟨year, rest, htext, -, hshort⟩ := exists_timestampText_eq t
  have hshape : w.text = Numeral.padded 4 w.date.year ++ ('-' :: Numeral.padded 2 w.date.month ++
      '-' :: Numeral.padded 2 w.date.day ++ 'T' :: w.clockText ++
        (WrittenTimestamp.fractionText w.mark w.fraction ++ w.zone.text)) := by
    simp [WrittenTimestamp.text, WrittenTimestamp.stem, Date.isoText]
  exact not_isDigit_of_hyphen (hshort hyear) (IsoText.length_year w.date) (htext.symm.trans (hw.symm.trans hshape))
    (Numeral.isDigits_padded 4 w.date.year).2

/-! ## What is read from a literal -/

theorem strip_timestampText (t : Timestamp) : strip (timestampText t) = timestampText t := by
  obtain ⟨year, rest, htext, hdigits, -⟩ := exists_timestampText_eq t
  obtain ⟨d, ds, rfl⟩ := List.exists_cons_of_ne_nil hdigits.1
  have hends := strip_of_ends (isBlank_of_isDigit d (hdigits.2 d List.mem_cons_self))
    (by decide : isBlank 'Z' = false) (ds ++ '-' :: rest)
  rw [htext]
  simpa using hends

/-- Before the year 1000, nothing is read. -/
theorem readTimestamp_timestampText {t : Timestamp} (hyear : t.date.year < 1000) :
    readTimestamp (timestampText t) = none := by
  obtain ⟨year, rest, htext, hdigits, hshort⟩ := exists_timestampText_eq t
  have hzulu : expandZulu (timestampText t) =
      (year ++ ['-']) ++ (rest ++ (WrittenZone.zulu false).expanded.text) := by
    have hletter := expandZulu_append_letter (year ++ '-' :: rest) false
    rw [htext]
    simpa using hletter
  have hfront {P : Char → Prop} (hdigit : ∀ c : Char, c.isDigit = true → P c) (hhyphen : P '-') :
      ∀ c ∈ year ++ ['-'], P c :=
    List.forall_mem_append.2 ⟨fun c hc => hdigit c (hdigits.2 c hc), List.forall_mem_singleton.2 hhyphen⟩
  have hpoint : ∀ c ∈ year ++ ['-'], c ≠ '.' := hfront (forall_of_isDigit (by decide)) (by decide)
  have hascii : ∀ c ∈ year ++ ['-'], c.toNat < 128 := hfront (forall_of_isDigit (by decide)) (by decide)
  rw [Option.eq_none_iff_forall_ne_some]
  intro r hread
  rw [readTimestamp, strip_timestampText, hzulu, sixDigitFraction_append hpoint, Timestamp.ofIso?,
    IsoText.codeUnits_append, IsoText.codeUnits_of_lt hascii] at hread
  obtain ⟨year', rest', hunits, hlength, hyears⟩ := IsoText.exists_year_of_read hread
  rw [List.append_assoc, List.singleton_append] at hunits
  exact not_isDigit_of_hyphen (hshort hyear) hlength hunits hyears

theorem toTimestamp_timestampText (t : Timestamp) :
    toTimestamp (.text (String.ofList (timestampText t))) = readTimestamp (timestampText t) := by
  rw [toTimestamp_text, strip_timestampText]

/-- **The text of a date literal** is a timestamp with milliseconds that is read back to the same instant and the same
literal, if its year has four digits; if not, it is no such timestamp and nothing is read back. -/
theorem encodeDate_readBack {v : Value} {literal : List Char} (h : encodeDate v = .ok literal)
    (hne : literal ≠ ['\'', '\'']) :
    ∃ t, (toTimestamp v).bind (·.inZone? 0) = some t ∧ literal = '\'' :: timestampText t ++ ['\''] ∧
      (1000 ≤ t.date.year → ShowsMillis (timestampText t) (t.instant / 1000) ∧
        (∃ r, toTimestamp (.text (String.ofList (timestampText t))) = some r ∧
          r.instant = 1000 * (t.instant / 1000)) ∧
        encodeDate (.text (String.ofList (timestampText t))) = encodeDate v) ∧
      (t.date.year < 1000 → (∀ millis, ¬ShowsMillis (timestampText t) millis) ∧
        encodeDate (.text (String.ofList (timestampText t))) = .ok ['\'', '\'']) := by
  obtain ⟨r, hr, t, ht⟩ : ∃ r, toTimestamp v = some r ∧ ∃ t, r.inZone? 0 = some t := by
    rw [encodeDate] at h
    split at h
    case h_1 => exact absurd (Except.ok.inj h).symm hne
    case h_2 r hr =>
      split at h
      case h_1 t ht => exact ⟨r, hr, t, ht⟩
      case h_2 => contradiction
  have hv := encodeDate_of_toTimestamp hr ht
  have hliteral : literal = '\'' :: timestampText t ++ ['\''] := Except.ok.inj (h.symm.trans hv)
  have hoffset : t.offset = some 0 := (Timestamp.ofLocalMicros?_spec ht).2.2.2
  refine ⟨t, by rw [hr]; exact ht, hliteral, ?_, ?_⟩
  · intro hyear
    obtain ⟨w, hw, -, -, -, hmillis⟩ := showsMillis_timestampText hoffset hyear
    obtain ⟨r', hr', hinstant'⟩ := exists_readTimestamp w
    rw [hw] at hr'
    have hinstant : r'.instant = 1000 * (t.instant / 1000) := by
      have hmicros : w.instant * 10 ^ 6 = ((1000 * (t.instant / 1000) : Int) : ℚ) := by
        push_cast
        linarith
      rw [hinstant', hmicros, Int.floor_intCast]
    have hback := (toTimestamp_timestampText t).trans hr'
    refine ⟨showsMillis_timestampText hoffset hyear, ⟨r', hback, hinstant⟩, ?_⟩
    -- Without its microseconds the instant is still in the calendar.
    have hin := mt (Timestamp.inZone?_zero_eq_none_iff r).2 (by simp [ht])
    rw [← Timestamp.instant_of_inZone? ht] at hin
    obtain ⟨u, hu⟩ : ∃ u, r'.inZone? 0 = some u := by
      rw [← Option.ne_none_iff_exists', Ne, Timestamp.inZone?_zero_eq_none_iff]
      omega
    have hsame : timestampText u = timestampText t := by
      rw [timestampText_eq_iff, date_eq_and_millis_eq_iff hu ht, hinstant, ← Timestamp.instant_of_inZone? ht]
      omega
    rw [encodeDate_of_toTimestamp hback hu, hv, hsame]
  · intro hyear
    refine ⟨not_showsMillis_timestampText hyear, ?_⟩
    rw [encodeDate, (toTimestamp_timestampText t).trans (readTimestamp_timestampText hyear)]

/-- The literal of a time two hours east of universal time is read back. -/
theorem encodeDate_readBack_of_leap_day :
    let v : Value := .text "2024-03-01T01:30:00.5009+02:00"
    let shown := "2024-02-29T23:30:00.500Z"
    encodeDate v = .ok ('\'' :: shown.toList ++ ['\'']) ∧ shown.toList ≠ [] ∧
      encodeDate (.text shown) = encodeDate v := by
  intro v shown
  let stamp : Timestamp := ⟨⟨2024, 3, 1, by decide⟩, 5400500900, some 7200000000, by decide, by decide⟩
  let utc : Timestamp := ⟨⟨2024, 2, 29, by decide⟩, 84600500900, some 0, by decide, by decide⟩
  have hread : toTimestamp v = some stamp := by decide
  have hzone : stamp.inZone? 0 = some utc := by decide
  have htext : timestampText utc = shown.toList := by decide
  have hv := encodeDate_of_toTimestamp hread hzone
  have hne : '\'' :: timestampText utc ++ ['\''] ≠ ['\'', '\''] := by
    rw [htext]
    decide
  obtain ⟨t, ht, -, hback, -⟩ := encodeDate_readBack hv hne
  rw [hread, Option.bind_some, hzone, Option.some.injEq] at ht
  subst ht
  obtain ⟨-, -, hsame⟩ := hback (by decide)
  rw [htext, String.ofList_toList] at hsame
  exact ⟨htext ▸ hv, by decide, hsame⟩

/-- The literal of the first instant of the calendar is not read back. -/
theorem encodeDate_readBack_fails :
    let v : Value := .timestamp ⟨⟨1, 1, 1, by decide⟩, 0, some 0, by decide, by decide⟩
    encodeDate v = .ok "'1-01-01T00:00:00.000Z'".toList ∧
      encodeDate (.text "1-01-01T00:00:00.000Z") = .ok ['\'', '\''] :=
  ⟨rfl, rfl⟩

end Query

end ODataBrowser
