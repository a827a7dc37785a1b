import ODataBrowser.Column.Type
import ODataBrowser.Proofs.Calendar.IsoText

/-!
# The fields at the start of a timestamp

A text that starts like a timestamp has digits of any script where the fields are (`TimestampStart`). If it is read as a
timestamp, these are digits of ASCII, and they name a day of the calendar and an hour and a minute of the day
(`TimestampStart.exists_of_ofIso?`).
-/

namespace ODataBrowser

/-! ## Digits -/

namespace Numeral

/-- A row of digits is its number, filled up to its length. -/
theorem padded_ofDigitChars {digits : List Char} (hne : 0 < digits.length) (h : ∀ c ∈ digits, c.isDigit = true) :
    padded digits.length (Nat.ofDigitChars 10 digits 0) = digits :=
  eq_of_ofDigitChars_eq (isDigits_padded _ _).2 h (length_padded hne (ofDigitChars_lt h)) (ofDigitChars_padded _ _)

end Numeral

/-! ## Patterns -/

/-- What stands in a text before the end of its first part is in that part. -/
theorem mem_of_append_cons_eq {α : Type} {front rest part rest' : List α} {c : α}
    (h : front ++ c :: rest = part ++ rest') (hlength : front.length < part.length) : c ∈ part := by
  have hc : (part ++ rest')[front.length]? = some c := by
    rw [← h, List.getElem?_append_right (Nat.le_refl _), Nat.sub_self]
    rfl
  rw [List.getElem?_append_left hlength] at hc
  exact List.mem_of_getElem? hc

theorem exists_of_startsLike_digits {count : Nat} {pattern : List PatternChar} {cs : List Char}
    (h : startsLike (List.replicate count .digit ++ pattern) cs = true) :
    ∃ digits rest, cs = digits ++ rest ∧ digits.length = count ∧ (∀ c ∈ digits, Text.isDigit c = true) ∧
      startsLike pattern rest = true := by
  induction count generalizing cs with
  | zero => exact ⟨[], cs, rfl, rfl, nofun, h⟩
  | succ count ih =>
    cases cs with
    | nil => exact absurd h (by simp [List.replicate_succ, startsLike])
    | cons c cs =>
      rw [List.replicate_succ, List.cons_append, startsLike, Bool.and_eq_true] at h
      obtain ⟨digits, rest, rfl, hlength, hdigits, hrest⟩ := ih h.2
      exact ⟨c :: digits, rest, rfl, by rw [List.length_cons, hlength], List.forall_mem_cons.2 ⟨h.1, hdigits⟩, hrest⟩

theorem exists_of_startsLike_exactly {c : Char} {pattern : List PatternChar} {cs : List Char}
    (h : startsLike (.exactly c :: pattern) cs = true) : ∃ rest, cs = c :: rest ∧ startsLike pattern rest = true := by
  cases cs with
  | nil => contradiction
  | cons d cs =>
    rw [startsLike, Bool.and_eq_true, beq_iff_eq] at h
    exact ⟨cs, by rw [h.1], h.2⟩

/-- The fields at the start of a timestamp, in digits of any script. -/
structure TimestampStart where
  year : List Char
  month : List Char
  day : List Char
  hour : List Char
  minute : List Char
  lengths : year.length = 4 ∧ month.length = 2 ∧ day.length = 2 ∧ hour.length = 2 ∧ minute.length = 2
  isDigit : ∀ c ∈ year ++ month ++ day ++ hour ++ minute, Text.isDigit c = true

/-- The fields with the marks between them. -/
def TimestampStart.text (s : TimestampStart) : List Char :=
  s.year ++ '-' :: (s.month ++ '-' :: (s.day ++ 'T' :: (s.hour ++ ':' :: s.minute)))

theorem TimestampStart.text_append (s : TimestampStart) (rest : List Char) :
    s.text ++ rest = s.year ++ '-' :: (s.month ++ '-' :: (s.day ++ 'T' :: (s.hour ++ ':' :: (s.minute ++ rest)))) := by
  simp [text]

theorem TimestampStart.length_text (s : TimestampStart) : s.text.length = 16 := by
  obtain ⟨hyear, hmonth, hday, hhour, hminute⟩ := s.lengths
  simp [text, hyear, hmonth, hday, hhour, hminute]

/-- What holds of the digits of any script and of the marks holds of every character of the fields. -/
theorem TimestampStart.forall_mem_text {P : Char → Prop} (hdigit : ∀ c, Text.isDigit c = true → P c)
    (hmarks : ['-', 'T', ':'].Forall P) (s : TimestampStart) : ∀ c ∈ s.text, P c := by
  obtain ⟨hhyphen, hletter, hcolon⟩ := hmarks
  have hdigits := s.isDigit
  simp only [List.forall_mem_append] at hdigits
  obtain ⟨⟨⟨⟨hyear, hmonth⟩, hday⟩, hhour⟩, hminute⟩ := hdigits
  simp only [text, List.forall_mem_append, List.forall_mem_cons]
  exact ⟨fun c hc => hdigit c (hyear c hc), hhyphen, fun c hc => hdigit c (hmonth c hc), hhyphen,
    fun c hc => hdigit c (hday c hc), hletter, fun c hc => hdigit c (hhour c hc), hcolon,
    fun c hc => hdigit c (hminute c hc)⟩

/-- The fields begin and end with digits. -/
theorem TimestampStart.exists_text_eq (s : TimestampStart) :
    ∃ first cs last, s.text = first :: (cs ++ [last]) ∧ Text.isDigit first = true ∧ Text.isDigit last = true := by
  obtain ⟨y, ys, hyear⟩ := List.exists_cons_of_length_eq_add_one s.lengths.1
  obtain ⟨m, m', hminute⟩ := List.length_eq_two.1 s.lengths.2.2.2.2
  refine ⟨y, ys ++ '-' :: (s.month ++ '-' :: (s.day ++ 'T' :: (s.hour ++ [':', m]))), m', ?_, s.isDigit y ?_,
    s.isDigit m' ?_⟩
  · simp [text, hyear, hminute]
  · simp [hyear]
  · simp [hminute]

theorem exists_of_startsLike_timestampPattern {cs : List Char} (h : startsLike timestampPattern cs = true) :
    ∃ (s : TimestampStart) (rest : List Char), cs = s.text ++ rest := by
  have hpattern : timestampPattern = List.replicate 4 .digit ++ .exactly '-' ::
      (List.replicate 2 .digit ++ .exactly '-' :: (List.replicate 2 .digit ++ .exactly 'T' ::
        (List.replicate 2 .digit ++ .exactly ':' :: (List.replicate 2 .digit ++ [])))) := rfl
  rw [hpattern] at h
  obtain ⟨year, cs, rfl, hyear, hyears, h⟩ := exists_of_startsLike_digits h
  obtain ⟨cs, rfl, h⟩ := exists_of_startsLike_exactly h
  obtain ⟨month, cs, rfl, hmonth, hmonths, h⟩ := exists_of_startsLike_digits h
  obtain ⟨cs, rfl, h⟩ := exists_of_startsLike_exactly h
  obtain ⟨day, cs, rfl, hday, hdays, h⟩ := exists_of_startsLike_digits h
  obtain ⟨cs, rfl, h⟩ := exists_of_startsLike_exactly h
  obtain ⟨hour, cs, rfl, hhour, hhours, h⟩ := exists_of_startsLike_digits h
  obtain ⟨cs, rfl, h⟩ := exists_of_startsLike_exactly h
  obtain ⟨minute, rest, rfl, hminute, hminutes, -⟩ := exists_of_startsLike_digits h
  refine ⟨⟨year, month, day, hour, minute, ⟨hyear, hmonth, hday, hhour, hminute⟩, ?_⟩, rest, ?_⟩
  · simp only [List.forall_mem_append]
    exact ⟨⟨⟨⟨hyears, hmonths⟩, hdays⟩, hhours⟩, hminutes⟩
  · rw [TimestampStart.text_append]

namespace IsoText

/-! ## Code units -/

theorem codeUnits_append (cs ds : List Char) : codeUnits (cs ++ ds) = codeUnits cs ++ codeUnits ds :=
  List.flatMap_append

theorem codeUnits_cons_of_lt {c : Char} (hc : c.toNat < 128) (cs : List Char) :
    codeUnits (c :: cs) = c :: codeUnits cs := by
  have hone : codeUnits [c] = [c] := codeUnits_of_lt (by simpa using hc)
  rw [← List.singleton_append, codeUnits_append, hone, List.singleton_append]

/-- A character outside ASCII begins with a code unit outside ASCII. -/
theorem exists_codeUnits_cons_of_le {c : Char} (hc : 128 ≤ c.toNat) (cs : List Char) :
    ∃ unit units, codeUnits (c :: cs) = unit :: units ∧ 128 ≤ unit.toNat := by
  have hunit (n : Nat) (hn : 128 ≤ n ∧ n < 256) : 128 ≤ (Char.ofNat (UInt8.ofNat n).toNat).toNat := by
    have hvalid : n.isValidChar := .inl (by omega)
    rw [UInt8.toNat_ofNat_of_lt' (by rw [UInt8.size]; omega), Char.ofNat, dif_pos hvalid]
    exact hn.1
  rw [codeUnits, List.flatMap_cons, String.utf8EncodeChar]
  split_ifs with hone htwo hthree
  · exact absurd hc (Nat.not_le.2 (Nat.lt_succ_of_le hone))
  · exact ⟨_, _, rfl, hunit _ (by omega)⟩
  · exact ⟨_, _, rfl, hunit _ (by omega)⟩
  · exact ⟨_, _, rfl, hunit _ (by omega)⟩

/-- What is ASCII at the start of the code units is so in the text. -/
theorem exists_of_codeUnits_eq_append {cs front units : List Char} (hfront : ∀ c ∈ front, c.toNat < 128)
    (h : codeUnits cs = front ++ units) : ∃ rest, cs = front ++ rest ∧ codeUnits rest = units := by
  induction front generalizing cs with
  | nil => exact ⟨cs, rfl, h⟩
  | cons d front ih =>
    rw [List.forall_mem_cons] at hfront
    cases cs with
    | nil => contradiction
    | cons c cs =>
      rcases Nat.lt_or_ge c.toNat 128 with hsmall | hlarge
      · rw [codeUnits_cons_of_lt hsmall] at h
        obtain ⟨rfl, h'⟩ := List.cons.inj h
        obtain ⟨rest, rfl, hrest⟩ := ih hfront.2 h'
        exact ⟨rest, rfl, hrest⟩
      · obtain ⟨unit, units', hmany, hunit⟩ := exists_codeUnits_cons_of_le hlarge cs
        rw [hmany] at h
        obtain ⟨rfl, -⟩ := List.cons.inj h
        exact absurd hfront.1 (Nat.not_lt.2 hunit)

/-- The code units of a digit of any script begin with none of the other characters of ASCII. -/
theorem exists_codeUnits_of_isDigit {digits : List Char} (hne : digits ≠ [])
    (hdigits : ∀ c ∈ digits, Text.isDigit c = true) (rest : List Char) :
    ∃ unit units, codeUnits (digits ++ rest) = unit :: units ∧
      ∀ c : Char, c.toNat < 128 → Text.isDigit c = false → unit ≠ c := by
  obtain ⟨d, ds, rfl⟩ := List.exists_cons_of_ne_nil hne
  rw [List.cons_append]
  rcases Nat.lt_or_ge d.toNat 128 with hsmall | hlarge
  · refine ⟨d, _, codeUnits_cons_of_lt hsmall _, ?_⟩
    rintro c - hc rfl
    simp [hdigits d List.mem_cons_self] at hc
  · obtain ⟨unit, units, hmany, hunit⟩ := exists_codeUnits_cons_of_le hlarge (ds ++ rest)
    refine ⟨unit, units, hmany, ?_⟩
    rintro c hc - rfl
    omega

/-! ## Reading -/

theorem exists_of_readDigits {count n : Nat} {units rest : List Char} (h : readDigits count units = some (n, rest)) :
    ∃ digits, units = digits ++ rest ∧ digits.length = count ∧ (∀ c ∈ digits, c.isDigit = true) ∧
      n = Nat.ofDigitChars 10 digits 0 := by
  unfold readDigits at h
  dsimp only at h
  split at h
  case isFalse => contradiction
  case isTrue hdigits =>
    obtain ⟨hn, hrest⟩ := Prod.mk.inj (Option.some.inj h)
    refine ⟨units.take count, ?_, hdigits.1, List.all_eq_true.1 hdigits.2, ?_⟩
    · rw [← hrest, List.take_append_drop]
    · rw [← hn, Nat.ofDigitChars_eq_foldl]
      rfl

/-- What is read as a timestamp begins with a date that is read. -/
theorem exists_of_read {units : List Char} {t : Timestamp} (h : read units = some t) :
    ∃ length d, dateLength units = some length ∧ readDate (units.take length) = some d ∧
      ∀ first rest, units.drop length = first :: rest →
        ∃ time, readTime ((first :: rest).drop (unitsOfCharacter first)) = some time := by
  obtain ⟨length, hlength, h⟩ := Option.bind_eq_some_iff.1 h
  obtain ⟨d, hd, h⟩ := Option.bind_eq_some_iff.1 h
  refine ⟨length, d, hlength, hd, ?_⟩
  intro first rest hdrop
  rw [hdrop] at h
  obtain ⟨time, htime, -⟩ := Option.bind_eq_some_iff.1 h
  exact ⟨time, htime⟩

/-- What is read as a timestamp begins with the four digits of a year. -/
theorem exists_year_of_read {units : List Char} {t : Timestamp} (h : read units = some t) :
    ∃ year rest, units = year ++ rest ∧ year.length = 4 ∧ ∀ c ∈ year, c.isDigit = true := by
  obtain ⟨length, d, hlength, hd, -⟩ := exists_of_read h
  obtain ⟨⟨n, rest⟩, hyear, -⟩ := Option.bind_eq_some_iff.1 hd
  obtain ⟨year, hsplit, hfour, hdigits, -⟩ := exists_of_readDigits hyear
  refine ⟨year, rest ++ units.drop length, ?_, hfour, hdigits⟩
  rw [← List.append_assoc, ← hsplit, List.take_append_drop]

/-- A field that is read at the start of a text is the one that stands there, in digits of ASCII. -/
theorem of_readDigits_codeUnits {count n : Nat} {field rest front back behind : List Char} (hcount : 0 < count)
    (hfield : field.length = count) (hunits : front ++ back = codeUnits (field ++ rest))
    (h : readDigits count front = some (n, behind)) :
    Numeral.padded count n = field ∧ n < 10 ^ count ∧ front = field ++ behind ∧ behind ++ back = codeUnits rest := by
  obtain ⟨digits, rfl, rfl, hdigits, rfl⟩ := exists_of_readDigits h
  have hascii : ∀ c ∈ digits, c.toNat < 128 := fun c hc => (Text.toNat_of_isDigit c (hdigits c hc)).2.trans (by decide)
  rw [List.append_assoc] at hunits
  obtain ⟨rest', hsplit, hrest⟩ := exists_of_codeUnits_eq_append hascii hunits.symm
  obtain ⟨rfl, rfl⟩ := List.append_inj hsplit hfield
  exact ⟨Numeral.padded_ofDigitChars hcount hdigits, Numeral.ofDigitChars_lt hdigits, rfl, hrest.symm⟩

/-! ## The date -/

/-- A date that is read where a timestamp starts is that of the fields there. -/
theorem exists_fields_of_readDate {s : TimestampStart} {rest front back : List Char} {d : Date}
    (hunits : front ++ back = codeUnits (s.text ++ rest)) (h : readDate front = some d) :
    ∃ year month day, Date.ofParts? year month day = some d ∧ Numeral.padded 4 year = s.year ∧
      Numeral.padded 2 month = s.month ∧ Numeral.padded 2 day = s.day ∧
      back = 'T' :: codeUnits (s.hour ++ ':' :: (s.minute ++ rest)) := by
  rw [s.text_append] at hunits
  have hmonthne : s.month ≠ [] := List.ne_nil_of_length_eq_add_one s.lengths.2.1
  have hmonthdigits : ∀ c ∈ s.month, Text.isDigit c = true := fun c hc => s.isDigit c (by simp [hc])
  obtain ⟨⟨year, behind⟩, hyear, h⟩ := Option.bind_eq_some_iff.1 h
  obtain ⟨hyear', -, -, hunits⟩ := of_readDigits_codeUnits (by decide) s.lengths.1 hunits hyear
  rw [codeUnits_cons_of_lt (by decide)] at hunits
  obtain ⟨unit, units, hunit, hletter⟩ := exists_codeUnits_of_isDigit hmonthne hmonthdigits
    ('-' :: (s.day ++ 'T' :: (s.hour ++ ':' :: (s.minute ++ rest))))
  dsimp only at h
  split at h
  case h_1 rest =>
    -- A week would follow the year, but a digit does.
    rw [List.cons_append, List.cons_append, hunit] at hunits
    exact absurd (List.cons.inj (List.cons.inj hunits).2).1.symm (hletter 'W' (by decide) (by decide))
  case h_2 rest =>
    exact absurd (List.cons.inj hunits).1 (by decide)
  case h_4 hother =>
    cases behind with
    | nil => contradiction
    | cons c behind =>
      obtain ⟨rfl, -⟩ := List.cons.inj hunits
      exact absurd rfl (hother _)
  case h_3 behind _ =>
    obtain ⟨⟨month, behind'⟩, hmonth, h⟩ := Option.bind_eq_some_iff.1 h
    obtain ⟨hmonth', -, -, hunits⟩ := of_readDigits_codeUnits Nat.two_pos s.lengths.2.1 (List.cons.inj hunits).2 hmonth
    rw [codeUnits_cons_of_lt (by decide)] at hunits
    dsimp only at h
    split at h
    case h_2 => contradiction
    case h_1 behind' _ =>
      obtain ⟨⟨day, behind⟩, hday, h⟩ := Option.bind_eq_some_iff.1 h
      obtain ⟨hday', -, -, hunits⟩ := of_readDigits_codeUnits Nat.two_pos s.lengths.2.2.1 (List.cons.inj hunits).2 hday
      rw [codeUnits_cons_of_lt (by decide)] at hunits
      dsimp only at h
      split at h
      case isFalse => contradiction
      case isTrue hempty =>
        rw [List.isEmpty_iff.1 hempty, List.nil_append] at hunits
        exact ⟨year, month, day, h, hyear', hmonth', hday', hunits⟩

/-- The date of a text that starts like a timestamp and is read as one. -/
theorem exists_date_of_read {s : TimestampStart} {rest : List Char} {t : Timestamp}
    (h : read (codeUnits (s.text ++ rest)) = some t) :
    ∃ d : Date, d.isoText = s.year ++ '-' :: (s.month ++ '-' :: s.day) ∧
      ∃ time, readTime (codeUnits (s.hour ++ ':' :: (s.minute ++ rest))) = some time := by
  obtain ⟨length, d, -, hd, htime⟩ := exists_of_read h
  obtain ⟨year, month, day, hparts, hyear, hmonth, hday, hdrop⟩ :=
    exists_fields_of_readDate (List.take_append_drop length _) hd
  obtain ⟨time, htime⟩ := htime _ _ hdrop
  refine ⟨d, ?_, time, htime⟩
  unfold Date.ofParts? at hparts
  split at hparts
  case isFalse => contradiction
  case isTrue =>
    rw [← Option.some.inj hparts, Date.isoText, hyear, hmonth, hday, List.append_assoc]
    rfl

/-! ## The time of day -/

theorem exists_of_readFields {mark : Char} {index fields : Nat} {colons : Option Bool} {units : List Char}
    {clock : Clock} (h : readFields mark index colons (fields + 1) units = some clock) :
    ∃ n behind, readDigits 2 units = some (n, behind) ∧ ∃ clock' : Clock, clock = clock'.withField index n := by
  obtain ⟨⟨n, behind⟩, hn, h⟩ := Option.bind_eq_some_iff.1 h
  refine ⟨n, behind, hn, ?_⟩
  dsimp only at h
  split_ifs at h
  all_goals
    obtain ⟨clock', -, h⟩ := Option.bind_eq_some_iff.1 h
    exact ⟨clock', (Option.some.inj h).symm⟩

/-- The time of a text that starts like a timestamp and is read as one. -/
theorem exists_time_of_readTime {s : TimestampStart} {rest : List Char} {time : Nat × Option Int}
    (h : readTime (codeUnits (s.hour ++ ':' :: (s.minute ++ rest))) = some time) :
    ∃ hour minute, hour < 24 ∧ minute < 60 ∧ Numeral.padded 2 hour = s.hour ∧ Numeral.padded 2 minute = s.minute := by
  have hminutene : s.minute ≠ [] := List.ne_nil_of_length_eq_add_one s.lengths.2.2.2.2
  have hminutedigits : ∀ c ∈ s.minute, Text.isDigit c = true := fun c hc => s.isDigit c (by simp [hc])
  obtain ⟨unit, units, hunit, hmark⟩ := exists_codeUnits_of_isDigit hminutene hminutedigits rest
  have hstart : startsZone unit = false := by
    have hplus := hmark '+' (by decide) (by decide)
    have hminus := hmark '-' (by decide) (by decide)
    have hletter := hmark 'Z' (by decide) (by decide)
    simp [startsZone, hplus, hminus, hletter]
  have hunits := List.takeWhile_append_dropWhile (p := (!startsZone ·))
    (l := codeUnits (s.hour ++ ':' :: (s.minute ++ rest)))
  have hzone := List.head?_dropWhile_not (!startsZone ·) (codeUnits (s.hour ++ ':' :: (s.minute ++ rest)))
  obtain ⟨clock, hclock, h⟩ := Option.bind_eq_some_iff.1 h
  generalize (codeUnits (s.hour ++ ':' :: (s.minute ++ rest))).takeWhile (!startsZone ·) = front at hclock hunits
  generalize (codeUnits (s.hour ++ ':' :: (s.minute ++ rest))).dropWhile (!startsZone ·) = back at hclock hunits hzone
  obtain ⟨hour, behind, hread, -⟩ := exists_of_readFields hclock
  obtain ⟨hhour, hlt, hfront, hunits⟩ := of_readDigits_codeUnits Nat.two_pos s.lengths.2.2.2.1 hunits hread
  rw [codeUnits_cons_of_lt (by decide)] at hunits
  -- No zone starts before the minutes, so the colon and the minutes are among the fields that are read.
  cases behind with
  | nil =>
    rw [List.nil_append] at hunits
    rw [hunits] at hzone
    exact absurd (show startsZone ':' = true by simpa using hzone) (by decide)
  | cons c behind =>
    obtain ⟨rfl, hunits'⟩ := List.cons.inj hunits
    have hne : behind ≠ [] := by
      rintro rfl
      change back = _ at hunits'
      rw [hunits', hunit] at hzone
      simp [hstart] at hzone
    rw [hfront, ← hhour, readClock, readFields_colon hlt 0 (by simp) 2 hne, Option.map_eq_some_iff] at hclock
    obtain ⟨clock', hclock', rfl⟩ := hclock
    obtain ⟨minute, behind', hread', clock'', rfl⟩ := exists_of_readFields hclock'
    obtain ⟨hminute, -, -, -⟩ := of_readDigits_codeUnits Nat.two_pos s.lengths.2.2.2.2 hunits' hread'
    split at h
    case isTrue => contradiction
    case isFalse htime =>
      have htime : hour < 24 ∧ minute < 60 ∧ clock''.second < 60 := by
        simpa [Clock.isTimeOfDay, Clock.withField, and_assoc] using htime
      exact ⟨hour, minute, htime.1, htime.2.1, hhour, hminute⟩

end IsoText

/-- **What starts like a timestamp and is read as one** names a day of the calendar and a time of day. -/
theorem TimestampStart.exists_of_ofIso? {s : TimestampStart} {rest : List Char} {t : Timestamp}
    (h : Timestamp.ofIso? (s.text ++ rest) = some t) :
    ∃ (d : Date) (hour minute : Nat), hour < 24 ∧ minute < 60 ∧
      s.text = d.isoText ++ 'T' :: (Numeral.padded 2 hour ++ ':' :: Numeral.padded 2 minute) := by
  obtain ⟨d, hd, time, htime⟩ := IsoText.exists_date_of_read h
  obtain ⟨hour, minute, hhour, hminute, hhour', hminute'⟩ := IsoText.exists_time_of_readTime htime
  refine ⟨d, hour, minute, hhour, hminute, ?_⟩
  rw [hd, hhour', hminute', text]
  simp

end ODataBrowser
