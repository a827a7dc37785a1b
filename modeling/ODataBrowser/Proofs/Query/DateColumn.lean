import ODataBrowser.Proofs.Calendar.IsoPrefix
import ODataBrowser.Proofs.Json.Text
import ODataBrowser.Proofs.Query.Instant

/-!
# Texts of date columns

A column has dates if a text in it starts like a timestamp, whatever its digits say and whatever follows. A literal of
such a text is empty unless it names a day and a time of day there, and it shows the instant if the whole text is a
timestamp in one of the ISO forms (`encodeDate_of_classify`).
-/

namespace ODataBrowser

open Text

/-! ## Digits of any script -/

/-- What holds of ten digits of each script holds of every digit. -/
theorem Text.forall_of_isDigit_any {P : Char → Prop} (h : ∀ start ∈ zeros, ∀ d < 10, P (Char.ofNat (start + d)))
    (c : Char) (hc : isDigit c = true) : P c := by
  unfold isDigit digit? at hc
  split at hc
  case h_2 => contradiction
  case h_1 start hfind =>
    have hrange := List.find?_some hfind
    rw [Bool.and_eq_true, decide_eq_true_eq, decide_eq_true_eq] at hrange
    have hdigit := h start (List.mem_of_find?_eq_some hfind) (c.toNat - start) (by omega)
    rwa [Nat.add_sub_cancel' hrange.1, Char.ofNat_toNat] at hdigit

theorem Text.isBlank_of_isDigit_any : ∀ c : Char, isDigit c = true → isBlank c = false :=
  forall_of_isDigit_any (by decide +kernel)

namespace TimestampStart

/-! ## The start of a timestamp -/

/-- The fields at the start are no white space. -/
theorem exists_strip_append_eq (s : TimestampStart) (rest : List Char) :
    ∃ rest', strip (s.text ++ rest) = s.text ++ rest' := by
  obtain ⟨first, cs, last, htext, hfirst, hlast⟩ := s.exists_text_eq
  have hstrip := strip_append_cons (List.forall_mem_nil _) (isBlank_of_isDigit_any first hfirst)
    (isBlank_of_isDigit_any last hlast) cs rest
  refine ⟨dropEndWhile isBlank rest, ?_⟩
  rw [htext]
  simpa using hstrip

/-- The letter for universal time is none of them. -/
theorem exists_expandZulu_append_eq (s : TimestampStart) (rest : List Char) :
    ∃ rest', Query.expandZulu (s.text ++ rest) = s.text ++ rest' := by
  rcases List.eq_nil_or_concat' rest with rfl | ⟨init, c, rfl⟩
  · obtain ⟨first, cs, last, htext, -, hlast⟩ := s.exists_text_eq
    refine ⟨[], ?_⟩
    have hletter : ¬(last = 'Z' ∨ last = 'z') := by
      rintro (rfl | rfl) <;> exact absurd hlast (by decide)
    rw [List.append_nil, htext, Query.expandZulu, ← List.cons_append, List.reverse_concat]
    exact if_neg hletter
  · rw [← List.append_assoc, Query.expandZulu, List.reverse_concat]
    dsimp only
    split
    · exact ⟨init ++ "+00:00".toList, by rw [List.reverse_reverse, List.append_assoc]⟩
    · exact ⟨init ++ [c], List.append_assoc _ _ _⟩

/-- There is no point among them. -/
theorem exists_sixDigitFraction_append_eq (s : TimestampStart) (rest : List Char) :
    ∃ rest', Query.sixDigitFraction [] (s.text ++ rest) = s.text ++ rest' := by
  have hpoint : ∀ c ∈ s.text, c ≠ '.' := by
    refine s.forall_mem_text ?_ (by decide)
    rintro c hc rfl
    exact absurd hc (by decide)
  exact ⟨_, Query.sixDigitFraction_append hpoint [] rest⟩

/-- What starts like a timestamp and is read in a filter names a day and a time of day. -/
theorem exists_of_readTimestamp {s : TimestampStart} {rest : List Char} {t : Timestamp}
    (h : Query.readTimestamp (s.text ++ rest) = some t) :
    ∃ (d : Date) (hour minute : Nat), hour < 24 ∧ minute < 60 ∧
      s.text = d.isoText ++ 'T' :: (Numeral.padded 2 hour ++ ':' :: Numeral.padded 2 minute) := by
  obtain ⟨rest₁, hstrip⟩ := s.exists_strip_append_eq rest
  obtain ⟨rest₂, hzulu⟩ := s.exists_expandZulu_append_eq rest₁
  obtain ⟨rest₃, hfraction⟩ := s.exists_sixDigitFraction_append_eq rest₂
  rw [Query.readTimestamp, hstrip, hzulu, hfraction] at h
  exact exists_of_ofIso? h

end TimestampStart

namespace Query

/-! ## Literals of a date column -/

/-- A text with a lone surrogate that starts like a timestamp is none. -/
theorem textTimestamp_broken {before : List Char} {first : Surrogate} {after : List CodePoint}
    (h : startsLike timestampPattern (JsonText.broken before first after).shown = true) :
    textTimestamp (.broken before first after) = none := by
  obtain ⟨s, rest, hshown⟩ := exists_of_startsLike_timestampPattern h
  have hmark : ∀ c ∈ s.text, c ≠ '\uFFFD' := by
    refine s.forall_mem_text ?_ (by decide)
    rintro c hc rfl
    exact absurd hc (by decide)
  have hsplit : before ++ '\uFFFD' :: after.map CodePoint.shown = s.text ++ rest := by
    rw [← hshown]
    simp [JsonText.shown, JsonText.points, CodePoint.shown, Function.comp_def]
  have hlength : s.text.length ≤ before.length :=
    Nat.not_lt.1 fun hlt => hmark _ (mem_of_append_cons_eq hsplit hlt) rfl
  rw [s.length_text] at hlength
  obtain ⟨c, cs, rfl⟩ := List.exists_cons_of_length_pos (Nat.lt_of_lt_of_le (by decide) hlength)
  have hc : isBlank c = false := by
    obtain ⟨d, ds, e, htext, hd, -⟩ := s.exists_text_eq
    rw [htext] at hsplit
    rw [(List.cons.inj hsplit).1]
    exact isBlank_of_isDigit_any d hd
  have hstrip : (JsonText.broken (c :: cs) first after).strip =
      .broken (c :: cs) first (dropEndWhile (CodePoint.isCharOf isBlank) after) := by
    change JsonText.ofPoints (dropEndWhile (CodePoint.isCharOf isBlank)
      (((c :: cs).map CodePoint.char ++ CodePoint.lone first :: after).dropWhile (CodePoint.isCharOf isBlank))) = _
    rw [List.map_cons, List.cons_append, List.dropWhile_cons_of_neg (by simp [CodePoint.isCharOf, hc]),
      ← List.cons_append, ← List.map_cons, dropEndWhile_append_cons rfl, JsonText.ofPoints_append_lone]
  have hplace : (c :: cs).length ∉ [7, 8, 10] := by
    simp only [List.mem_cons, List.not_mem_nil, or_false, not_or]
    omega
  rw [textTimestamp, hstrip]
  exact if_neg hplace

theorem exists_of_textTimestamp {s : JsonText} {t : Timestamp} (hstart : startsLike timestampPattern s.shown = true)
    (h : textTimestamp s = some t) :
    ∃ (d : Date) (hour minute : Nat) (rest : List Char), hour < 24 ∧ minute < 60 ∧
      s = .ofChars (d.isoText ++ 'T' :: (Numeral.padded 2 hour ++ ':' :: (Numeral.padded 2 minute ++ rest))) := by
  cases s with
  | broken before first after =>
    rw [textTimestamp_broken hstart] at h
    contradiction
  | string s =>
    obtain ⟨start, rest, htext⟩ := exists_of_startsLike_timestampPattern hstart
    obtain rfl : s = String.ofList (start.text ++ rest) := by
      rw [← htext]
      exact (String.ofList_toList).symm
    obtain ⟨rest', hstrip⟩ := start.exists_strip_append_eq rest
    have hread : readTimestamp (start.text ++ rest') = some t := by
      rw [← hstrip, ← toTimestamp_text]
      exact h
    obtain ⟨d, hour, minute, hhour, hminute, hd⟩ := TimestampStart.exists_of_readTimestamp hread
    refine ⟨d, hour, minute, rest, hhour, hminute, ?_⟩
    rw [hd, JsonText.ofChars]
    simp

/-- **A text that makes a column a date column** has an empty literal unless it names a day of the calendar and a time
of day in digits of ASCII. If all of it is an ISO timestamp in the calendar, white space at its end apart, the literal
shows its instant. -/
theorem encodeDate_of_classify {s : JsonText} (h : classify (.textual s) = some .date) :
    (encodeDate (.textual s) ≠ .ok ['\'', '\''] →
      ∃ (d : Date) (hour minute : Nat) (rest : List Char), hour < 24 ∧ minute < 60 ∧
        s = .ofChars (d.isoText ++ 'T' :: (Numeral.padded 2 hour ++ ':' :: (Numeral.padded 2 minute ++ rest)))) ∧
    ∀ (w : IsoTimestamp) (blanks : List Char), s = .ofChars (w.text ++ blanks) → (∀ c ∈ blanks, isBlank c = true) →
      InCalendar w.written.instant →
      ∃ t, Timestamp.ofLocalMicros? ⌊w.written.instant * 10 ^ 6⌋ (some 0) = some t ∧
        encodeDate (.textual s) = .ok ('\'' :: timestampText t ++ ['\'']) := by
  constructor
  · intro hne
    have hstart : startsLike timestampPattern s.shown = true := by
      by_contra hother
      rw [classify, if_neg hother] at h
      exact nomatch h
    cases hread : textTimestamp s with
    | none =>
      have hnone : toTimestamp (.textual s) = none := hread
      rw [encodeDate, hnone] at hne
      exact absurd rfl hne
    | some t => exact exists_of_textTimestamp hstart hread
  · rintro w blanks rfl hblanks hin
    obtain ⟨r, hr, hinstant⟩ := w.exists_readTimestamp (List.forall_mem_nil _)
    rw [List.append_nil] at hr
    have hread : toTimestamp (.text (String.ofList (w.text ++ blanks))) = some r := by
      rw [toTimestamp_text, w.strip_text_append hblanks, hr]
    exact exists_encodeDate_of_toTimestamp hread hinstant hin

/-- A time without seconds two hours east of universal time, with a blank behind it. -/
theorem encodeDate_of_classify_of_leap_day :
    let s : JsonText := .ofChars "2024-03-01T01:30+02 ".toList
    classify (.textual s) = some .date ∧
      encodeDate (.textual s) = .ok ('\'' :: "2024-02-29T23:30:00.000Z".toList ++ ['\'']) ∧
      ∃ (d : Date) (hour minute : Nat) (rest : List Char), hour < 24 ∧ minute < 60 ∧
        s = .ofChars (d.isoText ++ 'T' :: (Numeral.padded 2 hour ++ ':' :: (Numeral.padded 2 minute ++ rest))) := by
  intro s
  let w : IsoTimestamp := ⟨⟨2024, 3, 1, by decide⟩, 1, 30, none, .short false 2 (by decide), by decide⟩
  let utc : Timestamp := ⟨⟨2024, 2, 29, by decide⟩, 84600000000, some 0, by decide, by decide⟩
  have h : classify (.textual s) = some .date := by decide
  have hform : s = .ofChars (w.text ++ [' ']) := by decide
  have hinstant : w.written.instant = 63844846200 := by decide +kernel
  have hin : InCalendar w.written.instant := by
    rw [hinstant]
    norm_num [InCalendar, Date.maxOrdinal]
  have hutc : Timestamp.ofLocalMicros? ⌊w.written.instant * 10 ^ 6⌋ (some 0) = some utc := by
    rw [hinstant]
    norm_num
    decide
  have htext : timestampText utc = "2024-02-29T23:30:00.000Z".toList := by decide
  obtain ⟨hfields, hliteral⟩ := encodeDate_of_classify h
  obtain ⟨t, ht, hliteral⟩ := hliteral w [' '] hform (List.forall_mem_singleton.2 rfl) hin
  obtain rfl := Option.some.inj (hutc.symm.trans ht)
  rw [htext] at hliteral
  exact ⟨h, hliteral, hfields (by simp [hliteral])⟩

/-- Midnight at the end of a day and a year in full-width digits make a column a date column, and their literals are
empty. -/
theorem encodeDate_eq_empty_of_classify :
    classify (.text "2024-01-31T24:00") = some .date ∧
      encodeDate (.text "2024-01-31T24:00") = .ok ['\'', '\''] ∧
      classify (.text "２０２４-01-31T10:15") = some .date ∧
      encodeDate (.text "２０２４-01-31T10:15") = .ok ['\'', '\''] :=
  ⟨rfl, rfl, rfl, rfl⟩

end Query

end ODataBrowser
