import ODataBrowser.Proofs.Calendar.IsoForm
import ODataBrowser.Query.Literal

/-!
# ISO timestamps in filters

In a filter a letter for universal time becomes an offset and a fraction behind a point is brought to six digits before
a timestamp is read. Neither changes the instant that is read, up to the microsecond
(`IsoTimestamp.exists_readTimestamp`).
-/

namespace ODataBrowser

open Text

/-! ## Zones and fractions -/

/-- The zone with its letter written as an offset. -/
def WrittenZone.expanded : WrittenZone → WrittenZone
  | zulu _ => offset false 0 0 (by decide)
  | z => z

theorem WrittenZone.expanded_ne (z : WrittenZone) (small : Bool) : z.expanded ≠ .zulu small := by
  cases z <;> nofun

theorem WrittenZone.expanded_of_ne (z : WrittenZone) (h : ∀ small, z ≠ .zulu small) : z.expanded = z := by
  cases z with
  | zulu small => exact absurd rfl (h small)
  | _ => rfl

theorem WrittenZone.minutes_expanded (z : WrittenZone) : z.expanded.minutes = z.minutes := by
  cases z <;> rfl

/-- The same zone with an offset for a letter. -/
def IsoZone.expanded : IsoZone → IsoZone
  | full z => full z.expanded
  | z => z

theorem IsoZone.minutes_expanded (z : IsoZone) : z.expanded.written.minutes = z.written.minutes := by
  cases z with
  | full z => exact z.minutes_expanded
  | short _ _ _ => rfl
  | compact _ _ _ _ => rfl

theorem IsoZone.expanded_ne (z : IsoZone) : z.expanded ≠ .full (.zulu true) := by
  cases z with
  | full z => exact fun h => z.expanded_ne true (IsoZone.full.inj h)
  | short _ _ _ => nofun
  | compact _ _ _ _ => nofun

/-- The first six digits, with zeros for missing ones. -/
def sixDigits (ds : List (Fin 10)) : List (Fin 10) :=
  (ds ++ List.replicate 6 0).take 6

theorem firstDigits_take (count zeros : Nat) (ds : List (Fin 10)) :
    firstDigits count ((ds ++ List.replicate zeros 0).take count) = firstDigits count ds := by
  induction count generalizing zeros ds with
  | zero => rfl
  | succ count ih =>
    cases ds with
    | cons d ds => rw [List.cons_append, List.take_succ_cons, firstDigits, firstDigits, ih]
    | nil =>
      cases zeros with
      | zero => rfl
      | succ zeros =>
        have hrest : firstDigits count ((List.replicate zeros 0).take count) = firstDigits count [] := ih zeros []
        have hnil (count : Nat) : firstDigits count [] = 0 := by cases count <;> rfl
        rw [List.nil_append, List.replicate_succ, List.take_succ_cons, hnil, firstDigits, hrest, hnil]
        exact Nat.zero_mul _

theorem Query.isDigits_digitText {ds : List (Fin 10)} (h : ds ≠ []) : IsDigits (digitText ds) :=
  ⟨by simpa [digitText] using h, IsoText.isDigit_of_mem_digitText⟩

theorem sixDigits_ne_nil (ds : List (Fin 10)) : sixDigits ds ≠ [] := by
  simp [sixDigits]

theorem digitText_sixDigits (ds : List (Fin 10)) :
    digitText (sixDigits ds) = (digitText ds ++ List.replicate 6 '0').take 6 := by
  rw [digitText, sixDigits, List.map_take, List.map_append, List.map_replicate]
  rfl

namespace Query

/-! ## The text that is read -/

/-- A text that ends in digits has no letter for a zone. -/
theorem expandZulu_append_isDigits {digits : List Char} (h : IsDigits digits) (cs : List Char) :
    expandZulu (cs ++ digits) = cs ++ digits := by
  obtain ⟨init, c, rfl⟩ := (List.eq_nil_or_concat' digits).resolve_left h.1
  have hc : c.isDigit = true := h.2 c (by simp)
  have hletter : ¬(c = 'Z' ∨ c = 'z') := by
    rintro (rfl | rfl) <;> exact absurd hc (by decide)
  rw [expandZulu, ← List.append_assoc, List.reverse_concat]
  exact if_neg hletter

/-- The letter for universal time is written as an offset. -/
theorem expandZulu_append_letter (cs : List Char) (small : Bool) :
    expandZulu (cs ++ [if small then 'z' else 'Z']) = cs ++ (WrittenZone.zulu small).expanded.text := by
  have hc : (if small then 'z' else 'Z') = 'Z' ∨ (if small then 'z' else 'Z') = 'z' := by cases small <;> decide
  rw [expandZulu, List.reverse_concat]
  refine (if_pos hc).trans ?_
  rw [List.reverse_reverse]
  rfl

/-- A text without a point has no fraction to be brought to six digits. -/
theorem sixDigitFraction_append {cs : List Char} (h : ∀ c ∈ cs, c ≠ '.') (before rest : List Char) :
    sixDigitFraction before (cs ++ rest) = cs ++ sixDigitFraction (cs.reverse ++ before) rest := by
  induction cs generalizing before with
  | nil => rfl
  | cons c cs ih =>
    rw [List.forall_mem_cons] at h
    have hpoint : (c == '.') = false := by simpa using h.1
    simp [sixDigitFraction, hpoint, ih h.2]

theorem sixDigitFraction_of_forall_ne {cs : List Char} (h : ∀ c ∈ cs, c ≠ '.') : sixDigitFraction [] cs = cs := by
  have happend := sixDigitFraction_append h [] []
  rwa [List.append_nil, sixDigitFraction, List.append_nil] at happend

/-- The fraction of a second is brought to six digits. -/
theorem sixDigitFraction_second {d e : Char} {before digits rest : List Char} (hd : d.isDigit = true)
    (he : e.isDigit = true) (hdigits : IsDigits digits) (hrest : ∀ c ∈ rest.head?, isDigit c = false) :
    sixDigitFraction (d :: e :: ':' :: before) ('.' :: (digits ++ rest)) =
      '.' :: ((digits ++ List.replicate 6 '0').take 6 ++ rest) := by
  have hdigit : ∀ c : Char, c.isDigit = true → isDigit c = true := forall_of_isDigit (by decide)
  have hsplit := splitWhile_append (p := isDigit) (fun c hc => hdigit c (hdigits.2 c hc)) hrest
  rw [splitWhile, Prod.mk.injEq] at hsplit
  have hempty : digits.isEmpty = false := by simpa using hdigits.1
  simp only [sixDigitFraction, hdigit d hd, hdigit e he, hsplit.1, hsplit.2, hempty, beq_self_eq_true, Bool.and_self,
    Bool.not_false, if_true]
  rfl

/-- A fraction behind a point is brought to six digits, one behind a comma is kept. -/
theorem sixDigitFraction_fractionText {stem zone : List Char} (mark : Char) (digits : List (Fin 10))
    (hstem : ∀ c ∈ stem, c ≠ '.')
    (hsecond : ∃ d e before, stem.reverse = d :: e :: ':' :: before ∧ d.isDigit = true ∧ e.isDigit = true)
    (hzone : ∀ c ∈ zone, c ≠ '.') (hhead : ∀ c ∈ zone.head?, isDigit c = false) :
    sixDigitFraction [] (stem ++ (WrittenTimestamp.fractionText mark digits ++ zone)) =
      stem ++ (WrittenTimestamp.fractionText mark
        (if mark = '.' ∧ digits ≠ [] then sixDigits digits else digits) ++ zone) := by
  split
  case isTrue hpoint =>
    obtain ⟨d, e, before, hreverse, hd, he⟩ := hsecond
    have htext {ds : List (Fin 10)} (hne : ds ≠ []) :
        WrittenTimestamp.fractionText mark ds = '.' :: digitText ds := by
      rw [WrittenTimestamp.fractionText, if_neg (by simpa using hne), hpoint.1]
    rw [htext hpoint.2, htext (sixDigits_ne_nil _), sixDigitFraction_append hstem, hreverse, digitText_sixDigits]
    exact congrArg _ (sixDigitFraction_second hd he (isDigits_digitText hpoint.2) hhead)
  case isFalse hpoint =>
    have hdigit : ∀ c : Char, c.isDigit = true → c ≠ '.' := forall_of_isDigit (by decide)
    have hfraction : ∀ c ∈ WrittenTimestamp.fractionText mark digits, c ≠ '.' := by
      by_cases hmark : mark = '.'
      · have hempty : digits = [] := not_not.1 fun hne => hpoint ⟨hmark, hne⟩
        rw [hempty]
        simp [WrittenTimestamp.fractionText]
      · exact WrittenTimestamp.forall_mem_fractionText hdigit hmark _
    exact sixDigitFraction_of_forall_ne
      (List.forall_mem_append.2 ⟨hstem, List.forall_mem_append.2 ⟨hfraction, hzone⟩⟩)

end Query

/-! ## Timestamps -/

/-- The seconds with six digits behind a point. -/
def IsoSecond.normal (s : IsoSecond) : IsoSecond :=
  { s with fraction := if s.mark = '.' ∧ s.fraction ≠ [] then sixDigits s.fraction else s.fraction }

theorem IsoSecond.firstDigits_normal (s : IsoSecond) : firstDigits 6 s.normal.fraction = firstDigits 6 s.fraction := by
  rw [normal]
  dsimp only
  split
  · exact firstDigits_take 6 6 s.fraction
  · rfl

namespace IsoTimestamp

/-- The time of day ends in digits. -/
theorem exists_time_eq_append (t : IsoTimestamp) :
    ∃ cs digits, Query.IsDigits digits ∧ t.clockText ++ secondText t.second = cs ++ digits := by
  rw [clockText]
  cases t.second with
  | none =>
    refine ⟨Numeral.padded 2 t.hour ++ [':'], _, Numeral.isDigits_padded 2 t.minute, ?_⟩
    simp [secondText]
  | some s =>
    cases hfraction : s.fraction with
    | nil =>
      refine ⟨Numeral.padded 2 t.hour ++ ':' :: Numeral.padded 2 t.minute ++ [':'], _,
        Numeral.isDigits_padded 2 s.value, ?_⟩
      simp [secondText, IsoSecond.text, WrittenTimestamp.fractionText, hfraction]
    | cons d ds =>
      refine ⟨Numeral.padded 2 t.hour ++ ':' :: Numeral.padded 2 t.minute ++ ':' :: Numeral.padded 2 s.value ++
        [s.mark], _, Query.isDigits_digitText (List.cons_ne_nil d ds), ?_⟩
      simp [secondText, IsoSecond.text, WrittenTimestamp.fractionText, hfraction]

/-- A timestamp whose zone is no letter ends in digits. -/
theorem exists_text_eq_append {t : IsoTimestamp} (h : ∀ small, t.zone ≠ .full (.zulu small)) :
    ∃ cs digits, Query.IsDigits digits ∧ t.text = cs ++ digits := by
  have hzone : t.zone.text = [] ∨ ∃ cs digits, Query.IsDigits digits ∧ t.zone.text = cs ++ digits := by
    cases hzone : t.zone with
    | full z =>
      cases z with
      | unstated => exact .inl rfl
      | zulu small => exact absurd hzone (h small)
      | offset behind hours minutes _ =>
        refine .inr ⟨(if behind then '-' else '+') :: Numeral.padded 2 hours ++ [':'], _,
          Numeral.isDigits_padded 2 minutes, ?_⟩
        simp [IsoZone.text, WrittenZone.text]
    | short behind hours _ => exact .inr ⟨[_], _, Numeral.isDigits_padded 2 hours, rfl⟩
    | compact behind hours minutes _ =>
      exact .inr ⟨(if behind then '-' else '+') :: Numeral.padded 2 hours, _, Numeral.isDigits_padded 2 minutes, rfl⟩
  rcases hzone with hnone | ⟨cs, digits, hdigits, hzone⟩
  · obtain ⟨cs, digits, hdigits, htime⟩ := t.exists_time_eq_append
    refine ⟨t.date.isoText ++ 'T' :: cs, digits, hdigits, ?_⟩
    rw [text, hnone, List.append_nil, htime, ← List.cons_append, ← List.append_assoc]
  · refine ⟨t.date.isoText ++ 'T' :: (t.clockText ++ (secondText t.second ++ cs)), digits, hdigits, ?_⟩
    simp [text, hzone]

theorem expandZulu_text (t : IsoTimestamp) :
    Query.expandZulu t.text = { t with zone := t.zone.expanded }.text := by
  by_cases hletter : ∃ small, t.zone = .full (.zulu small)
  · obtain ⟨small, hzone⟩ := hletter
    have hexpand := Query.expandZulu_append_letter
      (t.date.isoText ++ 'T' :: (t.clockText ++ secondText t.second)) small
    simpa [text, clockText, hzone, IsoZone.text, IsoZone.expanded, WrittenZone.text] using hexpand
  · rw [not_exists] at hletter
    have hzone : t.zone.expanded = t.zone := by
      cases hzone : t.zone with
      | full z => exact congrArg _ (z.expanded_of_ne fun small h => hletter small (hzone.trans (congrArg _ h)))
      | short _ _ _ => rfl
      | compact _ _ _ _ => rfl
    obtain ⟨cs, digits, hdigits, htext⟩ := exists_text_eq_append hletter
    rw [hzone, htext, Query.expandZulu_append_isDigits hdigits, ← htext]

theorem isDigit_of_mem_head?_zone (z : IsoZone) : ∀ c ∈ z.text.head?, isDigit c = false := by
  have hsign (behind : Bool) : isDigit (if behind then '-' else '+') = false := by cases behind <;> decide
  cases z with
  | full z =>
    cases z with
    | unstated => simp [IsoZone.text, WrittenZone.text]
    | zulu small => cases small <;> simp [IsoZone.text, WrittenZone.text] <;> decide
    | offset behind _ _ _ => simpa [IsoZone.text, WrittenZone.text] using hsign behind
  | short behind _ _ => simpa [IsoZone.text] using hsign behind
  | compact behind _ _ _ => simpa [IsoZone.text] using hsign behind

theorem sixDigitFraction_text (t : IsoTimestamp) :
    Query.sixDigitFraction [] t.text = { t with second := t.second.map IsoSecond.normal }.text := by
  have hdigit : ∀ c : Char, c.isDigit = true → c ≠ '.' := forall_of_isDigit (by decide)
  have hzone : ∀ c ∈ t.zone.text, c ≠ '.' := t.zone.forall_mem_text hdigit (by decide)
  have hstem : ∀ c ∈ t.date.isoText ++ 'T' :: t.clockText, c ≠ '.' :=
    List.forall_mem_append.2 ⟨t.date.forall_mem_isoText hdigit (by decide),
      List.forall_mem_cons.2 ⟨by decide, t.forall_mem_clockText hdigit (by decide)⟩⟩
  obtain ⟨date, hour, minute, second, zone, _⟩ := t
  cases second with
  | none =>
    refine Query.sixDigitFraction_of_forall_ne ?_
    rw [text, secondText, Option.elim_none, List.nil_append, ← List.cons_append, ← List.append_assoc]
    exact List.forall_mem_append.2 ⟨hstem, hzone⟩
  | some s =>
    obtain ⟨e, d, hsecond⟩ := List.length_eq_two.1
      (Numeral.length_padded Nat.two_pos (s.isSecond.trans (by decide : 60 < 10 ^ 2)))
    have hdigits : ∀ c ∈ [e, d], c.isDigit = true := hsecond ▸ (Numeral.isDigits_padded 2 s.value).2
    have hvalue : ∀ c ∈ ':' :: Numeral.padded 2 s.value, c ≠ '.' :=
      List.forall_mem_cons.2 ⟨by decide, Numeral.forall_mem_padded hdigit 2 s.value⟩
    have hfraction := Query.sixDigitFraction_fractionText s.mark s.fraction
      (List.forall_mem_append.2 ⟨hstem, hvalue⟩)
      ⟨d, e, _, by rw [hsecond, List.reverse_append]; rfl, hdigits d (by simp), hdigits e (by simp)⟩ hzone
      (isDigit_of_mem_head?_zone zone)
    simpa [text, clockText, secondText, IsoSecond.text, IsoSecond.normal] using hfraction

theorem strip_text_append (t : IsoTimestamp) {blanks : List Char} (hblanks : ∀ c ∈ blanks, isBlank c = true) :
    strip (t.text ++ blanks) = t.text :=
  strip_append_of_forall_not (t.forall_mem_text isBlank_of_isDigit (by decide)) hblanks

/-- **A timestamp in a filter is read** as one that denotes the same instant up to the microsecond. -/
theorem exists_readTimestamp (t : IsoTimestamp) {blanks : List Char} (hblanks : ∀ c ∈ blanks, isBlank c = true) :
    ∃ r, Query.readTimestamp (t.text ++ blanks) = some r ∧ r.instant = ⌊t.written.instant * 10 ^ 6⌋ := by
  let normal : IsoTimestamp := { t with second := t.second.map IsoSecond.normal, zone := t.zone.expanded }
  obtain ⟨r, hr, hinstant⟩ := normal.exists_ofIso? t.zone.expanded_ne
  refine ⟨r, ?_, ?_⟩
  · rw [Query.readTimestamp, strip_text_append t hblanks, expandZulu_text, sixDigitFraction_text]
    exact hr
  · have hsecond : normal.written.second = t.written.second := by
      change (t.second.map IsoSecond.normal).elim 0 IsoSecond.value = t.second.elim 0 IsoSecond.value
      cases t.second <;> rfl
    have hwhole : normal.written.wholeSeconds = t.written.wholeSeconds := by
      rw [WrittenTimestamp.wholeSeconds, WrittenTimestamp.wholeSeconds, hsecond]
      exact congrArg (fun minutes : Int => _ - 60 * minutes) t.zone.minutes_expanded
    have hfraction : firstDigits 6 normal.written.fraction = firstDigits 6 t.written.fraction := by
      change firstDigits 6 ((t.second.map IsoSecond.normal).elim [] IsoSecond.fraction) =
        firstDigits 6 (t.second.elim [] IsoSecond.fraction)
      cases t.second with
      | none => rfl
      | some s => exact s.firstDigits_normal
    rw [hinstant, WrittenTimestamp.floor_instant, WrittenTimestamp.floor_instant, hwhole, hfraction]

end IsoTimestamp

end ODataBrowser
