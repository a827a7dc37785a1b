import ODataBrowser.Proofs.Calendar.IsoText

/-!
# ISO timestamps

A timestamp may leave out its seconds or their fraction, and its zone may be a letter or an offset with or without
minutes and a colon (`IsoTimestamp`). Whatever its form, what is read from it denotes the instant of the timestamp
written in full, up to the microsecond (`IsoTimestamp.exists_ofIso?`).
-/

namespace ODataBrowser

open Text

/-! ## Forms -/

/-- The seconds of a timestamp, with a fraction. -/
structure IsoSecond where
  value : Nat
  /-- The mark before the digits of the fraction. -/
  mark : Char
  fraction : List (Fin 10)
  isSecond : value < 60
  /-- The mark is a point or a comma. -/
  isMark : mark = '.' ∨ mark = ','

/-- The text of the seconds, with the colon before them. -/
def IsoSecond.text (s : IsoSecond) : List Char :=
  ':' :: (Numeral.padded 2 s.value ++ WrittenTimestamp.fractionText s.mark s.fraction)

/-- The zone of a timestamp: one that is written in full, or an offset in hours or without the colon. -/
inductive IsoZone where
  | full (z : WrittenZone)
  | short (behind : Bool) (hours : Nat) (isShort : hours < 24)
  | compact (behind : Bool) (hours minutes : Nat) (isShort : 60 * hours + minutes < 1440 ∧ minutes < 100)

/-- The text of a zone. -/
def IsoZone.text : IsoZone → List Char
  | full z => z.text
  | short behind hours _ => (if behind then '-' else '+') :: Numeral.padded 2 hours
  | compact behind hours minutes _ =>
    (if behind then '-' else '+') :: (Numeral.padded 2 hours ++ Numeral.padded 2 minutes)

/-- The same zone written in full. -/
def IsoZone.written : IsoZone → WrittenZone
  | full z => z
  | short behind hours isShort => .offset behind hours 0 (by omega)
  | compact behind hours minutes isShort => .offset behind hours minutes isShort

/-- A date, a time of day and a zone, of which the seconds and the zone may be missing. -/
structure IsoTimestamp where
  date : Date
  hour : Nat
  minute : Nat
  second : Option IsoSecond
  zone : IsoZone
  /-- The day has the time. -/
  isTimeOfDay : hour < 24 ∧ minute < 60

namespace IsoTimestamp

/-- The time of day up to the minutes. -/
def clockText (t : IsoTimestamp) : List Char :=
  Numeral.padded 2 t.hour ++ ':' :: Numeral.padded 2 t.minute

/-- The text of the seconds, if there are any. -/
def secondText (second : Option IsoSecond) : List Char :=
  second.elim [] IsoSecond.text

/-- The text of a timestamp. -/
def text (t : IsoTimestamp) : List Char :=
  t.date.isoText ++ 'T' :: (t.clockText ++ (secondText t.second ++ t.zone.text))

/-- The same timestamp written in full. -/
def written (t : IsoTimestamp) : WrittenTimestamp where
  date := t.date
  hour := t.hour
  minute := t.minute
  second := t.second.elim 0 IsoSecond.value
  mark := t.second.elim '.' IsoSecond.mark
  fraction := t.second.elim [] IsoSecond.fraction
  zone := t.zone.written
  isTimeOfDay := by
    refine ⟨t.isTimeOfDay.1, t.isTimeOfDay.2, ?_⟩
    cases t.second with
    | none => exact Nat.succ_pos 59
    | some s => exact s.isSecond
  isMark := by
    cases t.second with
    | none => exact .inl rfl
    | some s => exact s.isMark

end IsoTimestamp

/-! ## Characters -/

section

variable {P : Char → Prop} (hdigit : ∀ c, c.isDigit = true → P c)

include hdigit

theorem IsoSecond.forall_mem_text (hcolon : P ':') {s : IsoSecond} (hmark : P s.mark) : ∀ c ∈ s.text, P c := by
  rw [text, List.forall_mem_cons, List.forall_mem_append]
  exact ⟨hcolon, Numeral.forall_mem_padded hdigit 2 _, WrittenTimestamp.forall_mem_fractionText hdigit hmark _⟩

theorem IsoTimestamp.forall_mem_secondText (hcolon : P ':') {second : Option IsoSecond}
    (hmark : ∀ s ∈ second, P s.mark) : ∀ c ∈ secondText second, P c := by
  cases second with
  | none => exact List.forall_mem_nil _
  | some s => exact s.forall_mem_text hdigit hcolon (hmark s rfl)

theorem IsoZone.forall_mem_text (hmarks : ['-', ':', '+', 'Z', 'z'].Forall P) (z : IsoZone) : ∀ c ∈ z.text, P c := by
  have hpadded (n : Nat) := Numeral.forall_mem_padded hdigit 2 n
  obtain ⟨hminus, -, hplus, -⟩ := id hmarks
  have hsign (behind : Bool) : P (if behind then '-' else '+') := by cases behind <;> assumption
  cases z with
  | full z => exact z.forall_mem_text hdigit hmarks
  | short behind hours _ => exact List.forall_mem_cons.2 ⟨hsign behind, hpadded hours⟩
  | compact behind hours minutes _ =>
    exact List.forall_mem_cons.2 ⟨hsign behind, List.forall_mem_append.2 ⟨hpadded hours, hpadded minutes⟩⟩

theorem IsoTimestamp.forall_mem_clockText (hcolon : P ':') (t : IsoTimestamp) : ∀ c ∈ t.clockText, P c := by
  rw [clockText, List.forall_mem_append, List.forall_mem_cons]
  exact ⟨Numeral.forall_mem_padded hdigit 2 _, hcolon, Numeral.forall_mem_padded hdigit 2 _⟩

/-- What holds of the digits and of the marks holds of every character of a timestamp. -/
theorem IsoTimestamp.forall_mem_text (hmarks : ['-', 'T', ':', '.', ',', '+', 'Z', 'z'].Forall P) (t : IsoTimestamp) :
    ∀ c ∈ t.text, P c := by
  obtain ⟨hhyphen, hletter, hcolon, hpoint, hcomma, hplus, hlarge, hsmall⟩ := hmarks
  have hmark : ∀ s ∈ t.second, P s.mark := by
    intro s _
    rcases s.isMark with h | h <;> rwa [h]
  rw [text, List.forall_mem_append, List.forall_mem_cons, List.forall_mem_append, List.forall_mem_append]
  exact ⟨t.date.forall_mem_isoText hdigit hhyphen, hletter, t.forall_mem_clockText hdigit hcolon,
    forall_mem_secondText hdigit hcolon hmark, t.zone.forall_mem_text hdigit ⟨hhyphen, hcolon, hplus, hlarge, hsmall⟩⟩

end

namespace IsoText

/-! ## Reading the forms -/

/-- A zone is read as the one written in full; the small letter is none. -/
theorem isZoneText_iso {z : IsoZone} (hsmall : z ≠ .full (.zulu true)) : IsZoneText z.text z.written.offset? := by
  cases z with
  | full z => exact isZoneText_text fun h => hsmall (congrArg _ h)
  | short behind hours isShort =>
    refine .stated (by cases behind <;> rfl) (readZone_offset behind (by omega) ?_)
    rw [readClock, readFields_end (by omega)]
    rfl
  | compact behind hours minutes isShort =>
    obtain ⟨c, c', hminutes⟩ := List.length_eq_two.1 (Numeral.length_padded Nat.two_pos isShort.2)
    have hc : c.isDigit = true := (Numeral.isDigits_padded 2 minutes).2 c (hminutes ▸ List.mem_cons_self)
    refine .stated (by cases behind <;> rfl) (readZone_offset behind isShort ?_)
    rw [readClock, hminutes, readFields_digit (by omega) 0 (by simp) 2 hc (by simp), ← hminutes,
      readFields_end isShort.2]
    rfl

/-- A time of day is read as the one written in full. -/
theorem readClock_iso (t : IsoTimestamp) (after : Char) :
    readClock after (t.clockText ++ IsoTimestamp.secondText t.second) =
      some ⟨t.hour, t.minute, t.written.second, firstDigits 6 t.written.fraction, after != endMark⟩ := by
  have htime := t.isTimeOfDay
  have hhour : t.hour < 100 := by omega
  have hminute : t.minute < 100 := by omega
  have hne {n : Nat} {rest : List Char} : Numeral.padded 2 n ++ rest ≠ [] :=
    List.append_ne_nil_of_left_ne_nil (Numeral.isDigits_padded 2 n).1 rest
  rw [readClock, IsoTimestamp.clockText, List.append_assoc, List.cons_append, readFields_colon hhour 0 (by simp) 2 hne]
  obtain ⟨date, hour, minute, second, zone, _⟩ := t
  cases second with
  | none =>
    rw [IsoTimestamp.secondText, Option.elim_none, List.append_nil, readFields_end hminute]
    rfl
  | some s =>
    have hsecond : s.value < 100 := s.isSecond.trans (by decide)
    rw [IsoTimestamp.secondText, Option.elim_some, IsoSecond.text, readFields_colon hminute 1 (by simp) 1 hne,
      readFields_fraction hsecond 2 s.isMark]
    rfl

/-- A time of day and its zone are read back. -/
theorem readTime_iso {t : IsoTimestamp} (hsmall : t.zone ≠ .full (.zulu true)) :
    readTime (t.clockText ++ (IsoTimestamp.secondText t.second ++ t.zone.text)) =
      some (((t.hour * 60 + t.minute) * 60 + t.written.second) * 1000000 + firstDigits 6 t.written.fraction,
        t.written.zone.offset?) := by
  have hdigit : ∀ c : Char, c.isDigit = true → startsZone c = false := forall_of_isDigit (by decide)
  have hmark : ∀ s ∈ t.second, startsZone s.mark = false := by
    intro s _
    rcases s.isMark with h | h <;> rw [h] <;> rfl
  have hclock : ∀ c ∈ t.clockText ++ IsoTimestamp.secondText t.second, startsZone c = false :=
    List.forall_mem_append.2 ⟨t.forall_mem_clockText hdigit rfl, IsoTimestamp.forall_mem_secondText hdigit rfl hmark⟩
  obtain ⟨hhour, hminute, hsecond⟩ := t.written.isTimeOfDay
  let fields : Clock := ⟨t.hour, t.minute, t.written.second, firstDigits 6 t.written.fraction, false⟩
  have htime : fields.isTimeOfDay = true := by
    simpa [Clock.isTimeOfDay, fields] using ⟨⟨hhour, hminute⟩, hsecond⟩
  rw [← List.append_assoc]
  exact readTime_append fields hclock (readClock_iso t) htime (isZoneText_iso hsmall)

end IsoText

/-- **A timestamp is read** as one that denotes the same instant up to the microsecond. -/
theorem IsoTimestamp.exists_ofIso? {t : IsoTimestamp} (hsmall : t.zone ≠ .full (.zulu true)) :
    ∃ r, Timestamp.ofIso? t.text = some r ∧ r.instant = ⌊t.written.instant * 10 ^ 6⌋ := by
  have hascii : ∀ c ∈ t.text, c.toNat < 128 := t.forall_mem_text (forall_of_isDigit (by decide)) (by decide)
  have hmicros : ((t.hour * 60 + t.minute) * 60 + t.written.second) * 1000000 + firstDigits 6 t.written.fraction <
      microsPerDay := by
    have hfraction := firstDigits_lt 6 t.written.fraction
    have htime : t.hour < 24 ∧ t.minute < 60 ∧ t.written.second < 60 := t.written.isTimeOfDay
    unfold microsPerDay
    omega
  have hoffset : ∀ z ∈ t.written.zone.offset?, z.natAbs < microsPerDay := by
    intro z hz
    have hminutes := t.written.zone.natAbs_minutes_lt
    have hvalue := t.written.zone.getD_offset?
    rw [hz, Option.getD_some] at hvalue
    unfold microsPerDay
    omega
  refine ⟨⟨t.date, _, t.written.zone.offset?, hmicros, hoffset⟩, ?_, ?_⟩
  · rw [Timestamp.ofIso?, IsoText.codeUnits_of_lt hascii, text,
      IsoText.read_append t.date (IsoText.readTime_iso hsmall)]
    exact dif_pos ⟨hmicros, hoffset⟩
  · rw [WrittenTimestamp.floor_instant, Timestamp.instant, Timestamp.localMicros, t.written.zone.getD_offset?,
      WrittenTimestamp.wholeSeconds]
    dsimp only [written, microsPerDay]
    omega

end ODataBrowser
