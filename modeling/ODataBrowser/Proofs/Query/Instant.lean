import ODataBrowser.Proofs.Query.IsoForm

/-!
# Instants in filters

A timestamp reaches a filter as such or as a written one, in any zone and with any number of digits behind the second.
Its literal shows the instant that it denotes up to the millisecond, so two literals are the same just if the
instants are the same up to the millisecond (`encodeDate_eq_iff`).
-/

namespace ODataBrowser

open Text

/-! ## The text that is read -/

/-- A timestamp that is written in full, as one of the forms. -/
def WrittenTimestamp.iso (t : WrittenTimestamp) : IsoTimestamp where
  date := t.date
  hour := t.hour
  minute := t.minute
  second := some ⟨t.second, t.mark, t.fraction, t.isTimeOfDay.2.2, t.isMark⟩
  zone := .full t.zone
  isTimeOfDay := ⟨t.isTimeOfDay.1, t.isTimeOfDay.2.1⟩

theorem WrittenTimestamp.text_iso (t : WrittenTimestamp) : t.iso.text = t.text := by
  simp [iso, IsoTimestamp.text, IsoTimestamp.clockText, IsoTimestamp.secondText, IsoSecond.text, IsoZone.text, text,
    stem, clockText]

namespace Query

theorem strip_text (t : WrittenTimestamp) : strip t.text = t.text := by
  have hstrip := t.iso.strip_text_append (List.forall_mem_nil _)
  rwa [List.append_nil, t.text_iso] at hstrip

/-- A written timestamp in a filter is read as one that denotes the same instant up to the microsecond. -/
theorem exists_readTimestamp (t : WrittenTimestamp) :
    ∃ r, readTimestamp t.text = some r ∧ r.instant = ⌊t.instant * 10 ^ 6⌋ := by
  obtain ⟨r, hr, hinstant⟩ := t.iso.exists_readTimestamp (List.forall_mem_nil _)
  rw [List.append_nil, t.text_iso] at hr
  exact ⟨r, hr, hinstant⟩

/-! ## The text that is written -/

/-- Fields of the same width at the end of two texts can be told from what is before them. -/
theorem padded_append_inj {cs ds : List Char} {mark : Char} {width m n : Nat} (hwidth : 0 < width)
    (hm : m < 10 ^ width) (hn : n < 10 ^ width)
    (h : cs ++ mark :: Numeral.padded width m = ds ++ mark :: Numeral.padded width n) : cs = ds ∧ m = n := by
  have hlength : (mark :: Numeral.padded width m).length = (mark :: Numeral.padded width n).length := by
    rw [List.length_cons, List.length_cons, Numeral.length_padded hwidth hm, Numeral.length_padded hwidth hn]
  obtain ⟨hcs, hfield⟩ := List.append_inj' h hlength
  have hvalue := congrArg (Nat.ofDigitChars 10 · 0) (List.cons.inj hfield).2
  simp only [Numeral.ofDigitChars_padded] at hvalue
  exact ⟨hcs, hvalue⟩

/-- The text of a timestamp shows its date and its milliseconds. -/
theorem timestampText_eq_iff {t u : Timestamp} :
    timestampText t = timestampText u ↔ t.date = u.date ∧ t.micros / 1000 = u.micros / 1000 := by
  have hrange (t : Timestamp) : t.hour < 10 ^ 2 ∧ t.minute < 10 ^ 2 ∧ t.second < 10 ^ 2 ∧
      t.microsecond / 1000 < 10 ^ 3 := by
    have h := t.micros_lt
    unfold microsPerDay at h
    unfold Timestamp.hour Timestamp.minute Timestamp.second Timestamp.microsecond
    omega
  obtain ⟨hhour, hminute, hsecond, hmillis⟩ := hrange t
  obtain ⟨hhour', hminute', hsecond', hmillis'⟩ := hrange u
  have htwo : 0 < 2 := Nat.two_pos
  constructor
  · intro h
    obtain ⟨h, emillis⟩ := padded_append_inj (by decide) hmillis hmillis' (List.append_cancel_right h)
    obtain ⟨h, esecond⟩ := padded_append_inj htwo hsecond hsecond' h
    obtain ⟨h, eminute⟩ := padded_append_inj htwo hminute hminute' h
    obtain ⟨h, ehour⟩ := padded_append_inj htwo hhour hhour' h
    obtain ⟨h, eday⟩ := padded_append_inj htwo t.date.day_lt u.date.day_lt h
    obtain ⟨h, emonth⟩ := padded_append_inj htwo t.date.month_lt u.date.month_lt h
    refine ⟨Date.eq_of_parts (Numeral.ofNat_injective h) emonth eday, ?_⟩
    unfold Timestamp.hour at ehour
    unfold Timestamp.minute at eminute
    unfold Timestamp.second at esecond
    unfold Timestamp.microsecond at emillis
    omega
  · rintro ⟨hdate, hmicros⟩
    have hparts : t.hour = u.hour ∧ t.minute = u.minute ∧ t.second = u.second ∧
        t.microsecond / 1000 = u.microsecond / 1000 := by
      unfold Timestamp.hour Timestamp.minute Timestamp.second Timestamp.microsecond
      omega
    rw [timestampText, hdate, hparts.1, hparts.2.1, hparts.2.2.1, hparts.2.2.2, ← timestampText]

/-! ## Instants -/

/-- What a value says of an instant, in seconds from 0001-01-01T00:00:00Z. A timestamp without a zone is universal. -/
inductive Denotes : Value → ℚ → Prop
  | timestamp (t : Timestamp) : Denotes (.timestamp t) (t.instant / 10 ^ 6)
  | text (t : WrittenTimestamp) : Denotes (.text (String.ofList t.text)) t.instant

/-- Whether an instant lies in the years 1 to 9999 of universal time. -/
def InCalendar (x : ℚ) : Prop :=
  0 ≤ x ∧ x < Date.maxOrdinal * 86400

theorem toTimestamp_text (cs : List Char) : toTimestamp (.text (String.ofList cs)) = readTimestamp (strip cs) := by
  change readTimestamp (String.ofList (strip (String.ofList cs).toList)).toList = _
  rw [String.toList_ofList, String.toList_ofList]

theorem exists_toTimestamp {v : Value} {x : ℚ} (h : Denotes v x) :
    ∃ t, toTimestamp v = some t ∧ t.instant = ⌊x * 10 ^ 6⌋ := by
  cases h with
  | timestamp t =>
    refine ⟨t, rfl, ?_⟩
    rw [div_mul_cancel₀ _ (by norm_num), Int.floor_intCast]
  | text t =>
    obtain ⟨r, hr, hinstant⟩ := exists_readTimestamp t
    exact ⟨r, by rw [toTimestamp_text, strip_text, hr], hinstant⟩

/-- The literal of a timestamp shows it in universal time. -/
theorem encodeDate_of_toTimestamp {v : Value} {r t : Timestamp} (h : toTimestamp v = some r)
    (ht : r.inZone? 0 = some t) : encodeDate v = .ok ('\'' :: timestampText t ++ ['\'']) := by
  rw [encodeDate, h]
  dsimp only
  rw [ht]

/-- In the calendar, the literal shows the timestamp that has the instant in universal time. -/
theorem exists_encodeDate_of_toTimestamp {v : Value} {r : Timestamp} {x : ℚ} (h : toTimestamp v = some r)
    (hinstant : r.instant = ⌊x * 10 ^ 6⌋) (hx : InCalendar x) :
    ∃ t, Timestamp.ofLocalMicros? ⌊x * 10 ^ 6⌋ (some 0) = some t ∧
      encodeDate v = .ok ('\'' :: timestampText t ++ ['\'']) := by
  cases hutc : r.inZone? 0 with
  | none =>
    have hlow : 0 ≤ ⌊x * 10 ^ 6⌋ := Int.floor_nonneg.2 (mul_nonneg hx.1 (by norm_num))
    have hhigh : ⌊x * 10 ^ 6⌋ < (Date.maxOrdinal * microsPerDay : Nat) := by
      rw [Int.floor_lt]
      calc x * 10 ^ 6 < Date.maxOrdinal * 86400 * 10 ^ 6 := mul_lt_mul_of_pos_right hx.2 (by norm_num)
        _ = ((Date.maxOrdinal * microsPerDay : Nat) : Int) := by
          rw [microsPerDay]
          push_cast
          ring
    have hout := (Timestamp.inZone?_zero_eq_none_iff r).1 hutc
    omega
  | some utc =>
    refine ⟨utc, ?_, encodeDate_of_toTimestamp h hutc⟩
    rw [← hutc, Timestamp.inZone?, Int.add_zero, hinstant]

/-- The literal of a value that denotes an instant is the text of a timestamp in universal time. -/
theorem exists_encodeDate {v : Value} {x : ℚ} (h : Denotes v x) (hx : InCalendar x) :
    ∃ t, Timestamp.ofLocalMicros? ⌊x * 10 ^ 6⌋ (some 0) = some t ∧
      encodeDate v = .ok ('\'' :: timestampText t ++ ['\'']) := by
  obtain ⟨r, hr, hinstant⟩ := exists_toTimestamp h
  exact exists_encodeDate_of_toTimestamp hr hinstant hx

/-- Universal times are shown alike just if they are the same up to the millisecond. -/
theorem date_eq_and_millis_eq_iff {m n : Int} {t u : Timestamp} (ht : Timestamp.ofLocalMicros? m (some 0) = some t)
    (hu : Timestamp.ofLocalMicros? n (some 0) = some u) :
    t.date = u.date ∧ t.micros / 1000 = u.micros / 1000 ↔ m / 1000 = n / 1000 := by
  obtain ⟨hm, hdate, hmicros, -⟩ := Timestamp.ofLocalMicros?_spec ht
  obtain ⟨hn, hdate', hmicros', -⟩ := Timestamp.ofLocalMicros?_spec hu
  unfold microsPerDay at hdate hdate' hmicros hmicros'
  constructor
  · rintro ⟨hsame, hmillis⟩
    have hdays := Date.ordinal_of_ofOrdinal? hdate
    rw [hsame, Date.ordinal_of_ofOrdinal? hdate'] at hdays
    omega
  · intro h
    have hdays : m.toNat / 86400000000 = n.toNat / 86400000000 := by omega
    rw [hdays, hdate'] at hdate
    exact ⟨(Option.some.inj hdate).symm, by omega⟩

/-- **The literals of two instants** are the same just if the instants are the same up to the millisecond, however
they are given. -/
theorem encodeDate_eq_iff {v w : Value} {x y : ℚ} (hv : Denotes v x) (hw : Denotes w y) (hx : InCalendar x)
    (hy : InCalendar y) :
    ∃ cs ds, encodeDate v = .ok cs ∧ encodeDate w = .ok ds ∧ (cs = ds ↔ ⌊x * 1000⌋ = ⌊y * 1000⌋) := by
  obtain ⟨t, ht, hcs⟩ := exists_encodeDate hv hx
  obtain ⟨u, hu, hds⟩ := exists_encodeDate hw hy
  have hmillis (z : ℚ) : ⌊z * 1000⌋ = ⌊z * 10 ^ 6⌋ / 1000 := by
    rw [show z * 1000 = z * 10 ^ 6 / (1000 : Nat) by norm_num; ring]
    exact Int.floor_div_natCast _ 1000
  refine ⟨_, _, hcs, hds, ?_⟩
  rw [hmillis, hmillis, ← date_eq_and_millis_eq_iff ht hu, ← timestampText_eq_iff]
  exact ⟨fun h => List.append_cancel_right (List.cons.inj h).2, fun h => h ▸ rfl⟩

/-- Half past one on the first of March two hours east of universal time, and a time in February that is a fraction
of a millisecond later. -/
theorem encodeDate_eq_of_leap_day :
    let v : Value := .timestamp ⟨⟨2024, 3, 1, by decide⟩, 5400500000, some 7200000000, by decide, by decide⟩
    let w : Value := .text "2024-02-29T23:30:00.5009999z"
    ∃ x y : ℚ, Denotes v x ∧ Denotes w y ∧ InCalendar x ∧ InCalendar y ∧ x ≠ y ∧
      ∃ cs, encodeDate v = .ok cs ∧ encodeDate w = .ok cs := by
  intro v w
  let stamp : Timestamp := ⟨⟨2024, 3, 1, by decide⟩, 5400500000, some 7200000000, by decide, by decide⟩
  let written : WrittenTimestamp :=
    ⟨⟨2024, 2, 29, by decide⟩, 23, 30, 0, '.', [5, 0, 0, 9, 9, 9, 9], .zulu true, by decide, by decide⟩
  have hv : Denotes v (63844846200500000 / 10 ^ 6) := by
    have hinstant : stamp.instant = 63844846200500000 := by decide
    have hstamp := Denotes.timestamp stamp
    rwa [hinstant, Int.cast_ofNat] at hstamp
  have hw : Denotes w (63844846200 + 5009999 / 10 ^ 7) := by
    have htext : String.ofList written.text = "2024-02-29T23:30:00.5009999z" := by decide
    have hwhole : written.wholeSeconds = 63844846200 := by decide
    have hfraction : fractionValue written.fraction = 5009999 / 10 ^ 7 := by decide +kernel
    have hwritten := Denotes.text written
    rwa [htext, WrittenTimestamp.instant, hwhole, hfraction, Int.cast_ofNat] at hwritten
  have hx : InCalendar (63844846200500000 / 10 ^ 6) := by
    norm_num [InCalendar, Date.maxOrdinal]
  have hy : InCalendar (63844846200 + 5009999 / 10 ^ 7) := by
    norm_num [InCalendar, Date.maxOrdinal]
  obtain ⟨cs, ds, hcs, hds, hiff⟩ := encodeDate_eq_iff hv hw hx hy
  have heq : cs = ds := hiff.2 (by norm_num)
  exact ⟨_, _, hv, hw, hx, hy, by norm_num, cs, hcs, heq ▸ hds⟩

end Query

end ODataBrowser
