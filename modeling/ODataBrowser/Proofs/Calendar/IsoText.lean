import Mathlib.Data.List.GetD
import Mathlib.Data.Rat.Floor
import Mathlib.Tactic.Linarith
import Mathlib.Tactic.Ring
import ODataBrowser.Calendar.IsoText
import ODataBrowser.Proofs.Calendar.Ordinal
import ODataBrowser.Proofs.Number.Numeral

/-!
# Written timestamps

A written timestamp names a date, a time of day with a fraction of a second of any length and a zone
(`WrittenTimestamp.text`), and so an instant that need not be a number of microseconds. Its fields are read one after
the other (`IsoText.readTime_append`, `IsoText.read_append`).
-/

namespace ODataBrowser

/-! ## Written timestamps -/

/-- The zone behind a written time: none, a letter, or an offset shorter than a day. -/
inductive WrittenZone where
  | unstated
  | zulu (small : Bool)
  | offset (behind : Bool) (hours minutes : Nat) (isShort : 60 * hours + minutes < 1440 ∧ minutes < 100)

/-- The text of a zone. -/
def WrittenZone.text : WrittenZone → List Char
  | unstated => []
  | zulu small => [if small then 'z' else 'Z']
  | offset behind hours minutes _ =>
    (if behind then '-' else '+') :: Numeral.padded 2 hours ++ ':' :: Numeral.padded 2 minutes

/-- The local time minus universal time, in minutes. -/
def WrittenZone.minutes : WrittenZone → Int
  | unstated | zulu _ => 0
  | offset behind hours minutes _ => if behind then -(60 * hours + minutes : Nat) else (60 * hours + minutes : Nat)

/-- The offset of a zone in microseconds, if one is stated. -/
def WrittenZone.offset? : WrittenZone → Option Int
  | unstated => none
  | z => some (60000000 * z.minutes)

/-- A row of digits. -/
def digitText (ds : List (Fin 10)) : List Char :=
  ds.map fun d => Nat.digitChar d.val

/-- The number with the given digits behind the point. -/
def fractionValue : List (Fin 10) → ℚ
  | [] => 0
  | d :: ds => (d + fractionValue ds) / 10

/-- A date, a time of day with a fraction of a second, and a zone, as they are written. -/
structure WrittenTimestamp where
  date : Date
  hour : Nat
  minute : Nat
  second : Nat
  /-- The mark before the digits of the fraction. -/
  mark : Char
  fraction : List (Fin 10)
  zone : WrittenZone
  /-- The day has the time. -/
  isTimeOfDay : hour < 24 ∧ minute < 60 ∧ second < 60
  /-- The mark is a point or a comma. -/
  isMark : mark = '.' ∨ mark = ','

namespace WrittenTimestamp

/-- A mark and digits, or nothing at all. -/
def fractionText (mark : Char) (digits : List (Fin 10)) : List Char :=
  if digits.isEmpty then [] else mark :: digitText digits

/-- The time of day up to the seconds. -/
def clockText (t : WrittenTimestamp) : List Char :=
  Numeral.padded 2 t.hour ++ ':' :: (Numeral.padded 2 t.minute ++ ':' :: Numeral.padded 2 t.second)

/-- The text of a timestamp up to the seconds: `YYYY-MM-DDTHH:MM:SS`. -/
def stem (t : WrittenTimestamp) : List Char :=
  t.date.isoText ++ 'T' :: t.clockText

/-- The text of a timestamp, with its fraction and its zone. -/
def text (t : WrittenTimestamp) : List Char :=
  t.stem ++ (fractionText t.mark t.fraction ++ t.zone.text)

/-- The whole seconds from 0001-01-01T00:00:00Z to the instant denoted; a time without a zone is universal. -/
def wholeSeconds (t : WrittenTimestamp) : Int :=
  ((t.date.ordinal - 1) * 86400 + (t.hour * 60 + t.minute) * 60 + t.second : Nat) - 60 * t.zone.minutes

/-- The seconds from 0001-01-01T00:00:00Z to the instant denoted. -/
def instant (t : WrittenTimestamp) : ℚ :=
  t.wholeSeconds + fractionValue t.fraction

end WrittenTimestamp

/-! ## Fractions -/

/-- The number that the first `count` digits form, missing digits being zeros. -/
def firstDigits : (count : Nat) → List (Fin 10) → Nat
  | 0, _ | _ + 1, [] => 0
  | count + 1, d :: ds => d * 10 ^ count + firstDigits count ds

theorem fractionValue_mem (ds : List (Fin 10)) : 0 ≤ fractionValue ds ∧ fractionValue ds < 1 := by
  induction ds with
  | nil => simp [fractionValue]
  | cons d ds ih =>
    have hd : ((d : Nat) : ℚ) ≤ 9 := by exact_mod_cast Nat.le_of_lt_succ d.isLt
    rw [fractionValue, div_lt_one (by norm_num)]
    constructor
    · exact div_nonneg (add_nonneg (Nat.cast_nonneg _) ih.1) (by norm_num)
    · linarith [ih.2]

/-- The first digits are the fraction up to their place. -/
theorem floor_fractionValue (count : Nat) (ds : List (Fin 10)) :
    ⌊fractionValue ds * 10 ^ count⌋ = (firstDigits count ds : Int) := by
  induction count generalizing ds with
  | zero =>
    rw [pow_zero, mul_one, firstDigits, Int.floor_eq_iff]
    simpa using fractionValue_mem ds
  | succ count ih =>
    cases ds with
    | nil => simp [fractionValue, firstDigits]
    | cons d ds =>
      have hshift : fractionValue (d :: ds) * 10 ^ (count + 1) =
          ((d * 10 ^ count : Nat) : Int) + fractionValue ds * 10 ^ count := by
        rw [fractionValue]
        push_cast
        ring
      rw [hshift, Int.floor_intCast_add, ih, firstDigits]
      push_cast
      rfl

namespace IsoText

/-! ## Fields -/

theorem readDigits_append {digits : List Char} (h : ∀ c ∈ digits, c.isDigit = true) (rest : List Char) :
    readDigits digits.length (digits ++ rest) = some (Nat.ofDigitChars 10 digits 0, rest) := by
  rw [readDigits, List.take_left, List.drop_left, Nat.ofDigitChars_eq_foldl]
  exact if_pos ⟨rfl, List.all_eq_true.2 h⟩

/-- A field that was filled up to its width is read back. -/
theorem readDigits_padded {width n : Nat} (hwidth : 0 < width) (h : n < 10 ^ width) (rest : List Char) :
    readDigits width (Numeral.padded width n ++ rest) = some (n, rest) := by
  have hread := readDigits_append (Numeral.isDigits_padded width n).2 rest
  rwa [Numeral.length_padded hwidth h, Numeral.ofDigitChars_padded] at hread

theorem isDigit_of_mem_digitText {ds : List (Fin 10)} : ∀ c ∈ digitText ds, c.isDigit = true := by
  have hdigit (d : Fin 10) : (Nat.digitChar d).isDigit = true := by decide +revert
  simp [digitText, hdigit]

/-- The digits read before the end of a fraction, with the zeros that are missing, form its first digits. -/
theorem ofDigitChars_take (count : Nat) (ds : List (Fin 10)) (acc : Nat) :
    Nat.ofDigitChars 10 ((digitText ds).take (min count ds.length)) acc * 10 ^ (count - min count ds.length) =
      acc * 10 ^ count + firstDigits count ds := by
  induction ds generalizing count acc with
  | nil => cases count <;> simp [digitText, firstDigits, Nat.ofDigitChars_nil]
  | cons d ds ih =>
    cases count with
    | zero => simp [firstDigits, Nat.ofDigitChars_nil]
    | succ count =>
      have hvalue : (Nat.digitChar d).toNat - '0'.toNat = d := by decide +revert
      rw [List.length_cons, Nat.add_min_add_right, digitText, List.map_cons, List.take_succ_cons,
        Nat.ofDigitChars_cons, hvalue, Nat.add_sub_add_right, ← digitText, ih, firstDigits]
      ring

/-- Digits behind the sixth are not read. -/
theorem readFraction_digitText (mark : Char) (ds : List (Fin 10)) :
    readFraction mark (digitText ds) = some { micros := firstDigits 6 ds, hasRest := mark != endMark } := by
  have hlength : (digitText ds).length = ds.length := List.length_map _
  have hsix := ofDigitChars_take 6 ds 0
  have htaken : ∀ c ∈ (digitText ds).take (min 6 ds.length), c.isDigit = true :=
    fun c hc => isDigit_of_mem_digitText c (List.mem_of_mem_take hc)
  have hread := readDigits_append htaken ((digitText ds).drop (min 6 ds.length))
  have hrest : ((digitText ds).drop (min 6 ds.length)).dropWhile Char.isDigit = [] :=
    List.dropWhile_eq_nil_iff.2 fun c hc => isDigit_of_mem_digitText c (List.mem_of_mem_drop hc)
  rw [List.take_append_drop, List.length_take, hlength, Nat.min_assoc, Nat.min_self] at hread
  rw [Nat.zero_mul, Nat.zero_add] at hsix
  simp only [readFraction, hlength, hread, Option.bind_eq_bind, Option.bind_some, hrest]
  rw [tenPow, Nat.pow_eq, hsix]
  rfl

section

variable {after : Char} {n : Nat} (hn : n < 100) (index : Nat)

include hn

/-- A field with a colon behind it. -/
theorem readFields_colon {colons : Option Bool} (hcolons : colons ≠ some false) (fields : Nat) {rest : List Char}
    (hrest : rest ≠ []) :
    readFields after index colons (fields + 1) (Numeral.padded 2 n ++ ':' :: rest) =
      (readFields after (index + 1) (some true) fields rest).map (·.withField index n) := by
  have hused : colons.getD true = true := by
    cases colons with
    | none => rfl
    | some used => cases used <;> simp_all
  have hempty : rest.isEmpty = false := by simpa using hrest
  simp only [readFields, readDigits_padded Nat.two_pos hn, Option.bind_eq_bind, Option.bind_some, List.headD_cons,
    List.drop_succ_cons, List.drop_zero, beq_self_eq_true, hused, hempty]
  cases readFields after (index + 1) (some true) fields rest <;> rfl

/-- A field with a further digit behind it. -/
theorem readFields_digit {colons : Option Bool} (hcolons : colons ≠ some true) (fields : Nat) {c : Char}
    (hc : c.isDigit = true) {rest : List Char} (hrest : rest ≠ []) :
    readFields after index colons (fields + 1) (Numeral.padded 2 n ++ c :: rest) =
      (readFields after (index + 1) (some false) fields (c :: rest)).map (·.withField index n) := by
  have hmarks : (c == ':') = false ∧ (c == '.' || c == ',') = false :=
    Text.forall_of_isDigit (P := fun c => (c == ':') = false ∧ (c == '.' || c == ',') = false) (by decide) c hc
  have hunused : colons.getD false = false := by
    cases colons with
    | none => rfl
    | some used => cases used <;> simp_all
  have hempty : rest.isEmpty = false := by simpa using hrest
  simp only [readFields, readDigits_padded Nat.two_pos hn, Option.bind_eq_bind, Option.bind_some, List.headD_cons,
    List.drop_succ_cons, List.drop_zero, hmarks.1, hmarks.2, hunused, hempty]
  cases readFields after (index + 1) (some false) fields (c :: rest) <;> rfl

/-- A field with nothing behind it. -/
theorem readFields_end (colons : Option Bool) (fields : Nat) :
    readFields after index colons (fields + 1) (Numeral.padded 2 n) =
      some (Clock.withField { hasRest := after != endMark } index n) := by
  have hread := readDigits_padded Nat.two_pos hn []
  rw [List.append_nil] at hread
  simp only [readFields, hread, Option.bind_eq_bind, Option.bind_some, List.headD_nil, List.drop_nil, List.isEmpty_nil]
  rfl

/-- A last field with a fraction behind it. -/
theorem readFields_fraction {mark : Char} (hmark : mark = '.' ∨ mark = ',') (fields : Nat) (ds : List (Fin 10)) :
    readFields after index (some true) (fields + 1)
        (Numeral.padded 2 n ++ WrittenTimestamp.fractionText mark ds) =
      some (Clock.withField { micros := firstDigits 6 ds, hasRest := after != endMark } index n) := by
  unfold WrittenTimestamp.fractionText
  cases ds with
  | nil => exact (congrArg _ (List.append_nil _)).trans (readFields_end hn index _ fields)
  | cons d ds =>
    -- The mark is no colon, so it ends the fields although colons were used before.
    have hcolon : (mark == ':') = false := by rcases hmark with rfl | rfl <;> rfl
    have hpoint : (mark == '.' || mark == ',') = true := by rcases hmark with rfl | rfl <;> rfl
    have hempty : (digitText (d :: ds)).isEmpty = false := rfl
    simp only [readFields, List.isEmpty_cons, Bool.false_eq_true, if_false, readDigits_padded Nat.two_pos hn,
      Option.bind_eq_bind, Option.bind_some, List.headD_cons, List.drop_succ_cons, List.drop_zero, hcolon, hpoint,
      hempty, Option.getD_some, Bool.and_false, if_true, readFraction_digitText]

end

end IsoText

/-! ## Characters -/

section

variable {P : Char → Prop} (hdigit : ∀ c, c.isDigit = true → P c)

include hdigit

theorem Numeral.forall_mem_padded (width n : Nat) : ∀ c ∈ padded width n, P c :=
  fun c hc => hdigit c ((isDigits_padded width n).2 c hc)

theorem WrittenTimestamp.forall_mem_fractionText {mark : Char} (hmark : P mark) (digits : List (Fin 10)) :
    ∀ c ∈ fractionText mark digits, P c := by
  unfold fractionText
  split
  · simp
  · exact List.forall_mem_cons.2 ⟨hmark, fun c hc => hdigit c (IsoText.isDigit_of_mem_digitText c hc)⟩

theorem Date.forall_mem_isoText (hhyphen : P '-') (d : Date) : ∀ c ∈ d.isoText, P c := by
  have hpadded (width n : Nat) := Numeral.forall_mem_padded hdigit width n
  rw [isoText, List.forall_mem_append, List.forall_mem_append, List.forall_mem_cons, List.forall_mem_cons]
  exact ⟨⟨hpadded _ _, hhyphen, hpadded _ _⟩, hhyphen, hpadded _ _⟩

theorem WrittenZone.forall_mem_text (hmarks : ['-', ':', '+', 'Z', 'z'].Forall P) (z : WrittenZone) :
    ∀ c ∈ z.text, P c := by
  obtain ⟨hminus, hcolon, hplus, hlarge, hsmall⟩ := hmarks
  cases z with
  | unstated => exact List.forall_mem_nil _
  | zulu small => cases small <;> simpa [text]
  | offset behind hours minutes _ =>
    have hpadded (n : Nat) := Numeral.forall_mem_padded hdigit 2 n
    rw [text, List.forall_mem_append, List.forall_mem_cons, List.forall_mem_cons]
    refine ⟨⟨?_, hpadded _⟩, hcolon, hpadded _⟩
    cases behind
    · exact hplus
    · exact hminus

end

namespace IsoText

/-! ## Times of day -/

theorem readZone_cons {sign : Char} {cs : List Char} {clock : Clock} (hsign : sign ≠ 'Z')
    (hclock : readClock endMark cs = some clock) (hrest : clock.hasRest = false)
    (hmicros : clock.toMicros < 1000000 → clock.toMicros = 0) :
    readZone (sign :: cs) = some (if sign = '-' then -(clock.toMicros : Int) else clock.toMicros) := by
  unfold readZone
  split
  case h_1 heq => exact absurd (List.cons.inj heq).1 hsign
  case h_3 heq => exact absurd heq (List.cons_ne_nil _ _)
  case h_2 heq =>
    obtain ⟨rfl, rfl⟩ := List.cons.inj heq
    simp only [hclock, Option.bind_eq_bind, Option.bind_some, hrest, Bool.false_eq_true, if_false]
    split
    case isTrue hsmall => simp [hmicros hsmall]
    case isFalse => rfl

/-- An offset is read from its hours and its minutes. -/
theorem readZone_offset (behind : Bool) {hours minutes : Nat} (isShort : 60 * hours + minutes < 1440 ∧ minutes < 100)
    {cs : List Char} (hclock : readClock endMark cs = some { hour := hours, minute := minutes, hasRest := false }) :
    readZone ((if behind then '-' else '+') :: cs) = (WrittenZone.offset behind hours minutes isShort).offset? := by
  have hmicros : Clock.toMicros { hour := hours, minute := minutes, hasRest := false } =
      60000000 * (60 * hours + minutes) := by
    simp only [Clock.toMicros]
    omega
  have hread (sign : Char) (hsign : sign ≠ 'Z') := readZone_cons hsign hclock rfl (by omega)
  simp only [hmicros] at hread
  cases behind with
  | true =>
    refine (hread '-' (by decide)).trans (congrArg some ?_)
    rw [if_pos rfl, WrittenZone.minutes, if_pos rfl, Nat.cast_mul, mul_neg, Nat.cast_ofNat]
  | false =>
    refine (hread '+' (by decide)).trans (congrArg some ?_)
    rw [if_neg (by decide), WrittenZone.minutes, if_neg Bool.false_ne_true, Nat.cast_mul, Nat.cast_ofNat]

/-- A zone is read back; the small letter is none. -/
theorem readZone_text {z : WrittenZone} (hstated : z ≠ .unstated) (hsmall : z ≠ .zulu true) :
    readZone z.text = z.offset? := by
  cases z with
  | unstated => contradiction
  | zulu small =>
    cases small with
    | true => contradiction
    | false => rfl
  | offset behind hours minutes isShort =>
    have hhours : hours < 100 := by omega
    have hclock : readClock endMark (Numeral.padded 2 hours ++ ':' :: Numeral.padded 2 minutes) =
        some { hour := hours, minute := minutes, hasRest := false } := by
      rw [readClock, readFields_colon hhours 0 (by simp) 2 (Numeral.isDigits_padded 2 minutes).1,
        readFields_end isShort.2]
      rfl
    exact readZone_offset behind isShort hclock

theorem startsZone_of_mem_head? {z : WrittenZone} (hsmall : z ≠ .zulu true) :
    ∀ c ∈ z.text.head?, startsZone c = true := by
  cases z with
  | unstated => simp [WrittenZone.text]
  | zulu small =>
    cases small with
    | true => contradiction
    | false => simp [WrittenZone.text, startsZone]
  | offset behind hours minutes _ => cases behind <;> simp [WrittenZone.text, startsZone]

/-- Whether a text is read as a zone with the given offset, or there is none. -/
inductive IsZoneText : List Char → Option Int → Prop
  | unstated : IsZoneText [] none
  | stated {c : Char} {cs : List Char} {offset : Int} (hstart : startsZone c = true)
      (hread : readZone (c :: cs) = some offset) : IsZoneText (c :: cs) (some offset)

/-- A time of day and the zone behind it are read one after the other. -/
theorem readTime_append (fields : Clock) {clock zone : List Char} {offset : Option Int}
    (hclock : ∀ c ∈ clock, startsZone c = false)
    (hread : ∀ after, readClock after clock = some { fields with hasRest := after != endMark })
    (htime : fields.isTimeOfDay = true) (hzone : IsZoneText zone offset) :
    readTime (clock ++ zone) = some (fields.toMicros, offset) := by
  -- No character of the time starts a zone, and the first one behind it does.
  have hhead : ∀ c ∈ zone.head?, startsZone c = true := by
    cases hzone with
    | unstated => simp
    | stated hstart _ => simpa using hstart
  have hsplit := Query.splitWhile_append (p := (!startsZone ·)) (fun c hc => by rw [hclock c hc]; rfl)
    (fun c hc => by rw [hhead c hc]; rfl)
  rw [Text.splitWhile, Prod.mk.injEq] at hsplit
  have htime (rest : Bool) : Clock.isTimeOfDay { fields with hasRest := rest } = true := htime
  simp only [readTime, hsplit.1, hsplit.2, hread, Option.bind_eq_bind, Option.bind_some, htime, Bool.not_true,
    Bool.false_eq_true, if_false]
  cases hzone with
  | unstated => rfl
  | stated _ hoffset =>
    rw [hoffset]
    rfl

theorem isZoneText_text {z : WrittenZone} (hsmall : z ≠ .zulu true) : IsZoneText z.text z.offset? := by
  have hhead := startsZone_of_mem_head? hsmall
  cases z with
  | unstated => exact .unstated
  | zulu small => exact .stated (hhead _ rfl) (readZone_text (by simp) hsmall)
  | offset behind hours minutes isShort => exact .stated (hhead _ rfl) (readZone_text (by simp) hsmall)

/-! ## Dates -/

theorem length_year (d : Date) : (Numeral.padded 4 d.year).length = 4 :=
  Numeral.length_padded (by decide) d.year_lt

theorem length_day (d : Date) : (Numeral.padded 2 d.day).length = 2 :=
  Numeral.length_padded (by decide) d.day_lt

/-- A month is two digits, by which a date is told from one in weeks. -/
theorem exists_month (d : Date) : ∃ c c', Numeral.padded 2 d.month = [c, c'] ∧ c ≠ 'W' := by
  have hmonth : (Numeral.padded 2 d.month).length = 2 := Numeral.length_padded (by decide) d.month_lt
  obtain ⟨c, c', hc⟩ := List.length_eq_two.1 hmonth
  have hdigit : c.isDigit = true := (Numeral.isDigits_padded 2 d.month).2 c (hc ▸ List.mem_cons_self)
  refine ⟨c, c', hc, ?_⟩
  rintro rfl
  exact absurd hdigit (by decide)

theorem length_isoText (d : Date) : d.isoText.length = 10 := by
  obtain ⟨c, c', hmonth, -⟩ := exists_month d
  simp [Date.isoText, length_year, length_day, hmonth]

theorem dateLength_isoText (d : Date) (rest : List Char) : dateLength (d.isoText ++ rest) = some 10 := by
  obtain ⟨c, c', hmonth, hc⟩ := exists_month d
  have hshape : d.isoText ++ rest =
      Numeral.padded 4 d.year ++ '-' :: c :: c' :: '-' :: (Numeral.padded 2 d.day ++ rest) := by
    simp [Date.isoText, hmonth]
  have hhyphen : (d.isoText ++ rest).getD 4 ' ' = '-' := by
    rw [hshape, List.getD_append_right _ _ _ _ (length_year d).le, length_year]
    rfl
  have hnext : (d.isoText ++ rest).getD 5 ' ' ≠ 'W' := by
    rw [hshape, List.getD_append_right _ _ _ _ (by rw [length_year]; decide), length_year]
    exact hc
  rw [dateLength]
  dsimp only
  rw [List.length_append, length_isoText, if_neg (by omega), if_neg (by omega), if_pos hhyphen, if_pos hnext]

theorem readDate_isoText (d : Date) : readDate d.isoText = some d := by
  obtain ⟨c, c', hmonth, hc⟩ := exists_month d
  have hyear := readDigits_padded (by decide : 0 < 4) d.year_lt
    ('-' :: c :: c' :: '-' :: Numeral.padded 2 d.day)
  have hmonths := readDigits_padded Nat.two_pos d.month_lt ('-' :: Numeral.padded 2 d.day)
  have hday := readDigits_padded Nat.two_pos d.day_lt []
  have hshape : d.isoText = Numeral.padded 4 d.year ++ '-' :: c :: c' :: '-' :: Numeral.padded 2 d.day := by
    simp [Date.isoText, hmonth]
  rw [hmonth, List.cons_append, List.cons_append, List.nil_append] at hmonths
  rw [List.append_nil] at hday
  simp only [readDate, hshape, hyear, Option.bind_eq_bind, Option.bind_some]
  split
  case h_1 heq => exact absurd (List.cons.inj (List.cons.inj heq).2).1 hc
  case h_2 heq => exact absurd (List.cons.inj heq).1 (by decide)
  case h_3 heq =>
    have hdate : Date.ofParts? d.year d.month d.day = some d := dif_pos d.isCalendarDay
    rw [← (List.cons.inj heq).2, hmonths]
    change (readDigits 2 (Numeral.padded 2 d.day)).bind _ = _
    rw [hday]
    exact hdate
  case h_4 h => exact absurd rfl (h _)

/-! ## Timestamps -/

/-- The code units of a text of ASCII are its characters. -/
theorem codeUnits_of_lt {cs : List Char} (h : ∀ c ∈ cs, c.toNat < 128) : codeUnits cs = cs := by
  induction cs with
  | nil => rfl
  | cons c cs ih =>
    rw [List.forall_mem_cons] at h
    have hc : String.utf8EncodeChar c = [UInt8.ofNat c.toNat] := if_pos (Nat.le_of_lt_succ h.1)
    have hunit : Char.ofNat (UInt8.ofNat c.toNat).toNat = c := by
      rw [UInt8.toNat_ofNat', Nat.mod_eq_of_lt (by omega), Char.ofNat_toNat]
    rw [codeUnits, List.flatMap_cons, hc, List.map_singleton, hunit, ← codeUnits, ih h.2]
    rfl

/-- A date, the letter and a time of day are read one after the other. -/
theorem read_append (d : Date) {time : List Char} {micros : Nat} {offset : Option Int}
    (h : readTime time = some (micros, offset)) :
    read (d.isoText ++ 'T' :: time) = Timestamp.ofParts? d micros offset := by
  have hunit : unitsOfCharacter 'T' = 1 := rfl
  have htime : ('T' :: time).drop (unitsOfCharacter 'T') = time := by rw [hunit, List.drop_succ_cons, List.drop_zero]
  rw [read, dateLength_isoText, Option.bind_eq_bind, Option.bind_some, List.take_left' (length_isoText d),
    readDate_isoText, Option.bind_eq_bind, Option.bind_some, List.drop_left' (length_isoText d)]
  dsimp only
  rw [htime, h]
  rfl

end IsoText

theorem firstDigits_lt (count : Nat) (ds : List (Fin 10)) : firstDigits count ds < 10 ^ count := by
  induction count generalizing ds with
  | zero => exact Nat.one_pos
  | succ count ih =>
    cases ds with
    | nil => exact Nat.pow_pos (by decide)
    | cons d ds =>
      calc d * 10 ^ count + firstDigits count ds < d * 10 ^ count + 10 ^ count := Nat.add_lt_add_left (ih ds) _
        _ = (d + 1) * 10 ^ count := (Nat.succ_mul _ _).symm
        _ ≤ 10 * 10 ^ count := Nat.mul_le_mul_right _ d.isLt
        _ = 10 ^ (count + 1) := (Nat.pow_succ').symm

theorem WrittenZone.getD_offset? (z : WrittenZone) : z.offset?.getD 0 = 60000000 * z.minutes := by
  cases z <;> rfl

theorem WrittenZone.natAbs_minutes_lt (z : WrittenZone) : z.minutes.natAbs < 1440 := by
  cases z with
  | offset behind hours minutes isShort =>
    cases behind <;> simp only [WrittenZone.minutes, if_true, Bool.false_eq_true, if_false] <;> omega
  | _ => exact (by decide : (0 : Int).natAbs < 1440)

theorem WrittenTimestamp.floor_instant (t : WrittenTimestamp) :
    ⌊t.instant * 10 ^ 6⌋ = t.wholeSeconds * 10 ^ 6 + firstDigits 6 t.fraction := by
  have hsplit : t.instant * 10 ^ 6 = ((t.wholeSeconds * 10 ^ 6 : Int) : ℚ) + fractionValue t.fraction * 10 ^ 6 := by
    rw [instant]
    push_cast
    ring
  rw [hsplit, Int.floor_intCast_add, floor_fractionValue]

end ODataBrowser
