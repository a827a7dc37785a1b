import ODataBrowser.Json.Reader
import ODataBrowser.Proofs.Number.Numeral

/-!
# Texts that are not read as JSON

A JSON value begins with one of few characters (`Json.beginnings`), among them neither white space nor the `<` of
markup, so markup is no JSON (`Json.read?_of_markup`). An integer with too many digits keeps everything around it from
being read (`Json.readNumber_of_length`), and so does what is nested too deeply.
-/

namespace ODataBrowser.Json

open Text

/-! ## The first character -/

/-- The characters with which a value may begin. -/
def beginnings : List Char :=
  "0123456789\"[\x7b-ntfNI".toList

theorem mem_beginnings_of_isDigit : ∀ c : Char, c.isDigit = true → c ∈ beginnings :=
  forall_of_isDigit (by decide)

theorem not_mem_beginnings_of_isBlank {c : Char} (h : isBlank c = true) : c ∉ beginnings := by
  have hnone : beginnings.all (!isBlank ·) = true := by decide
  intro hmem
  have hblank := List.all_eq_true.1 hnone c hmem
  simp [h] at hblank

theorem readWhole_of_ne_zero {c : Char} (hzero : c ≠ '0') (rest : Source) :
    readWhole (.char c :: rest) = readDigits (.char c :: rest) := by
  unfold readWhole
  split
  · rename_i heq
    exact absurd (CodePoint.char.inj (List.cons.inj heq).1) hzero
  · rfl

theorem readNumber_eq_error {c : Char} (hminus : c ≠ '-') (hzero : c ≠ '0') (hdigit : c.isDigit = false)
    (rest : Source) : readNumber (.char c :: rest) = .error .notJson := by
  have hnone : readDigits (.char c :: rest) = none := by
    rw [readDigits, splitDigits, List.takeWhile_cons_of_neg (by simp [isDigit, hdigit])]
    rfl
  unfold readNumber
  split
  rename_i negative behind heq
  split at heq
  · rename_i h
    exact absurd (CodePoint.char.inj (List.cons.inj h).1) hminus
  · obtain ⟨-, rfl⟩ := Prod.mk.inj heq
    rw [readWhole_of_ne_zero hzero, hnone]

/-- Behind a character with which no value begins, there is no value. -/
theorem readValue_of_not_mem_beginnings {c : Char} (h : c ∉ beginnings) (fuel room : Nat) (rest : Source) :
    readValue (fuel + 1) room (.char c :: rest) = .error .notJson := by
  have hne : ∀ d ∈ beginnings, c ≠ d := fun d hd heq => h (heq ▸ hd)
  have hdigit : c.isDigit = false := Bool.eq_false_iff.2 (mt (mem_beginnings_of_isDigit c) h)
  have hword : List.find? (fun word : String × Value =>
      (word.1.toList.map CodePoint.char).isPrefixOf (.char c :: rest)) words = none := by
    simp [words, (hne 'n' (by decide)).symm, (hne 't' (by decide)).symm, (hne 'f' (by decide)).symm,
      (hne 'N' (by decide)).symm, (hne 'I' (by decide)).symm, (hne '-' (by decide)).symm]
  have hnumber := readNumber_eq_error (hne '-' (by decide)) (hne '0' (by decide)) hdigit rest
  unfold readValue
  split
  · rename_i heq
    exact absurd (CodePoint.char.inj (List.cons.inj heq).1) (hne '"' (by decide))
  · rename_i heq
    exact absurd (CodePoint.char.inj (List.cons.inj heq).1) (hne '[' (by decide))
  · rename_i heq
    exact absurd (CodePoint.char.inj (List.cons.inj heq).1) (hne '\x7b' (by decide))
  · unfold readAtom
    rw [hword]
    exact hnumber

/-- Space between tokens is white space. -/
theorem isBlank_of_isSpace {c : Char} (h : isSpace (.char c) = true) : isBlank c = true := by
  simp only [isSpace, Bool.or_eq_true, beq_iff_eq] at h
  rcases h with ((rfl | rfl) | rfl) | rfl <;> decide

/-- A text that begins with `<` apart from white space is no JSON. -/
theorem read?_of_markup {s : String} (h : (stripStart s.toList).head? = some '<') : read? s = .ok none := by
  have hread : ∀ cs, (stripStart cs).head? = some '<' → ∀ fuel room,
      readValue (fuel + 1) room (skipSpace (cs.map .char)) = .error .notJson := by
    intro cs hcs fuel room
    induction cs with
    | nil => contradiction
    | cons c cs ih =>
      by_cases hspace : isSpace (.char c) = true
      · rw [stripStart, List.dropWhile_cons_of_pos (isBlank_of_isSpace hspace)] at hcs
        rw [List.map_cons, skipSpace, List.dropWhile_cons_of_pos hspace]
        exact ih hcs
      · rw [List.map_cons, skipSpace, List.dropWhile_cons_of_neg hspace]
        refine readValue_of_not_mem_beginnings ?_ fuel room _
        by_cases hblank : isBlank c = true
        · exact not_mem_beginnings_of_isBlank hblank
        · rw [stripStart, List.dropWhile_cons_of_neg hblank, List.head?_cons] at hcs
          rw [Option.some.inj hcs]
          decide
  unfold read? read readSource
  rw [hread s.toList h]
  rfl

/-! ## Integers with too many digits -/

/-- The digits in front of another character are split off. -/
theorem splitDigits_append {digits : List Char} (h : ∀ c ∈ digits, c.isDigit = true) {point : CodePoint}
    (hpoint : isDigit point = false) (rest : Source) :
    splitDigits (digits.map .char ++ point :: rest) = (digits, point :: rest) := by
  have hall : ∀ p ∈ digits.map CodePoint.char, isDigit p = true := by simpa [isDigit] using h
  rw [splitDigits, List.takeWhile_append_of_pos hall, List.dropWhile_append_of_pos hall,
    List.takeWhile_cons_of_neg (by simp [hpoint]), List.dropWhile_cons_of_neg (by simp [hpoint]), List.append_nil,
    List.filterMap_map]
  exact congrArg (·, _) (List.filterMap_some ..)

/-- An integer with too many digits is not read. -/
theorem readNumber_of_length {digits : List Char} (h : ∀ c ∈ digits, c.isDigit = true)
    (hlong : Numeral.maxDigits < digits.length) (hzero : digits.head? ≠ some '0') {point : CodePoint}
    (hpoint : point = .char ',' ∨ point = .char '\x7d') (rest : Source) :
    readNumber (digits.map .char ++ point :: rest) = .error .tooManyDigits := by
  have hends : isDigit point = false ∧ readFraction (point :: rest) = none ∧ readExponent (point :: rest) = none := by
    rcases hpoint with rfl | rfl <;> exact ⟨rfl, rfl, rfl⟩
  obtain ⟨hdigit, hfraction, hexponent⟩ := hends
  cases digits with
  | nil => exact absurd hlong (Nat.not_lt_zero _)
  | cons first more =>
    have hfirst : first ≠ '0' := by simpa using hzero
    have hminus : first ≠ '-' := by
      rintro rfl
      exact absurd (h '-' (List.mem_cons_self ..)) (by decide)
    have hwhole : readWhole ((first :: more).map .char ++ point :: rest) = some (first :: more, point :: rest) := by
      rw [List.map_cons, List.cons_append, readWhole_of_ne_zero hfirst, ← List.cons_append, ← List.map_cons, readDigits,
        splitDigits_append h hdigit]
      rfl
    unfold readNumber
    split
    rename_i negative behind heq
    split at heq
    · rename_i hsign
      exact absurd (CodePoint.char.inj (List.cons.inj hsign).1) hminus
    · obtain ⟨-, rfl⟩ := Prod.mk.inj heq
      rw [hwhole]
      simp only [hfraction, hexponent, Option.map_none, Option.getD_none, Option.isNone_none, Bool.and_self, if_true,
        if_pos hlong]

/-! ## Errors inside lists and objects -/

/-- What cannot be read with however much fuel is not read. -/
theorem readSource_of_error {cs : Source} {e : Malformed} {least : Nat}
    (h : ∀ fuel, readValue (fuel + least) maxDepth (skipSpace cs) = .error e) (hleast : least ≤ 2 * cs.length + 1) :
    readSource cs = .error e := by
  obtain ⟨fuel, hfuel⟩ := Nat.exists_eq_add_of_le' hleast
  unfold readSource
  rw [hfuel, h fuel]
  rfl

/-- A list is not read whose first item is not. -/
theorem readValue_list_of_error {fuel room : Nat} {first : CodePoint} {rest : Source} {e : Malformed}
    (h : readValue fuel room (first :: rest) = .error e) (hspace : isSpace first = false) (hclose : first ≠ .char ']') :
    readValue (fuel + 2) (room + 1) (.char '[' :: first :: rest) = .error e := by
  have hitems : readItems (fuel + 1) room (first :: rest) = .error e := by
    rw [readItems, h]
    rfl
  have hskip : skipSpace (first :: rest) = first :: rest := List.dropWhile_cons_of_neg (by simp [hspace])
  unfold readValue
  simp only [hskip]
  split
  · contradiction
  · rename_i heq
    exact absurd (List.cons.inj heq).1 hclose
  · rename_i hroom _
    obtain rfl := Nat.succ.inj hroom
    rw [hitems]
    rfl

/-- An object is not read whose first field is not. -/
theorem readValue_object_of_error {fuel room : Nat} {rest : Source} {e : Malformed}
    (h : readValue (fuel + 1) room (skipSpace rest) = .error e) :
    readValue (fuel + 3) (room + 1) ("\x7b\"n\":".toList.map .char ++ rest) = .error e := by
  have hfields : readFields (fuel + 2) room [] ("\"n\":".toList.map .char ++ rest) = .error e := by
    change (readValue (fuel + 1) room (skipSpace rest)).bind _ = _
    rw [h]
    rfl
  change (readFields (fuel + 2) room [] ("\"n\":".toList.map .char ++ rest)).bind _ = _
  rw [hfields]
  rfl

/-! ## Brackets -/

/-- Each opening bracket takes up one place, and the one behind the last place is one too many. -/
theorem readValue_brackets {fuel room : Nat} (h : 2 * room < fuel) (rest : Source) :
    readValue fuel room (List.replicate (room + 1) (.char '[') ++ rest) = .error .tooDeep := by
  induction room generalizing fuel with
  | zero =>
    obtain ⟨fuel, rfl⟩ := Nat.exists_eq_add_one.2 h
    rfl
  | succ room ih =>
    obtain ⟨fuel, rfl⟩ : ∃ n, fuel = n + 2 := ⟨fuel - 2, by omega⟩
    have hinner : readValue fuel room (.char '[' :: (List.replicate room (.char '[') ++ rest)) = .error .tooDeep :=
      ih (by omega)
    have hitems : readItems (fuel + 1) room (.char '[' :: (List.replicate room (.char '[') ++ rest)) =
        .error .tooDeep := by
      rw [readItems, hinner]
      rfl
    change (readItems (fuel + 1) room (.char '[' :: (List.replicate room (.char '[') ++ rest))).bind _ = _
    rw [hitems]
    rfl

theorem readValue_of_many_brackets {n fuel room : Nat} (hroom : room < n) (hfuel : 2 * room < fuel) (rest : List Char) :
    readValue fuel room ((List.replicate n '[' ++ rest).map .char) = .error .tooDeep := by
  obtain ⟨more, rfl⟩ : ∃ more, n = room + 1 + more := ⟨n - (room + 1), by omega⟩
  have htext : (List.replicate (room + 1 + more) '[' ++ rest).map CodePoint.char =
      List.replicate (room + 1) (.char '[') ++ (List.replicate more '[' ++ rest).map .char := by
    rw [← List.replicate_append_replicate, List.append_assoc, List.map_append, List.map_replicate]
  rw [htext, readValue_brackets hfuel]

theorem skipSpace_brackets {n : Nat} (h : 0 < n) (rest : List Char) :
    skipSpace ((List.replicate n '[' ++ rest).map .char) = (List.replicate n '[' ++ rest).map .char := by
  obtain ⟨more, rfl⟩ := Nat.exists_eq_add_one.2 h
  rfl

theorem read?_brackets {n : Nat} (h : maxDepth < n) (rest : List Char) :
    read? (String.ofList (List.replicate n '[' ++ rest)) = .error .tooDeep := by
  unfold read? read readSource
  rw [String.toList_ofList, skipSpace_brackets (Nat.zero_lt_of_lt h), readValue_of_many_brackets h (by simp; omega)]
  rfl

/-- Nor is an object with so many brackets in its first field, which stand one place deeper. -/
theorem read?_brackets_field {n : Nat} (h : maxDepth ≤ n) (rest : List Char) :
    read? (String.ofList ("\x7b\"n\":".toList ++ (List.replicate n '[' ++ rest))) = .error .tooDeep := by
  have hmany : 984 < n := Nat.lt_of_lt_of_le (by decide) h
  have hread (fuel : Nat) : readValue (fuel + 1971) maxDepth
      (skipSpace (("\x7b\"n\":".toList ++ (List.replicate n '[' ++ rest)).map .char)) = .error .tooDeep := by
    rw [List.map_append]
    refine readValue_object_of_error ?_
    rw [skipSpace_brackets (Nat.zero_lt_of_lt hmany)]
    exact readValue_of_many_brackets hmany (by omega) rest
  unfold read? read
  rw [String.toList_ofList, readSource_of_error hread (by simp [maxDepth] at h ⊢; omega)]

/-- A list of such an object is not read either. -/
theorem read?_brackets_row {n : Nat} (h : maxDepth ≤ n) (rest : List Char) :
    read? (String.ofList ('[' :: ("\x7b\"n\":".toList ++ (List.replicate n '[' ++ rest)))) = .error .tooDeep := by
  have hmany : 983 < n := Nat.lt_of_lt_of_le (by decide) h
  have hread (fuel : Nat) : readValue (fuel + 1971) maxDepth
      (skipSpace (('[' :: ("\x7b\"n\":".toList ++ (List.replicate n '[' ++ rest))).map .char)) = .error .tooDeep := by
    rw [List.map_cons, List.map_append]
    refine readValue_list_of_error (readValue_object_of_error ?_) rfl (by decide)
    rw [skipSpace_brackets (Nat.zero_lt_of_lt hmany)]
    exact readValue_of_many_brackets hmany (by omega) rest
  unfold read? read
  rw [String.toList_ofList, readSource_of_error hread (by simp [maxDepth] at h ⊢; omega)]

/-! ## Long rows of ones -/

/-- So many ones. -/
def ones (n : Nat) : List Char :=
  List.replicate n '1'

@[simp] theorem length_ones (n : Nat) : (ones n).length = n :=
  List.length_replicate

theorem readValue_ones {n : Nat} (h : Numeral.maxDigits < n) {point : CodePoint}
    (hpoint : point = .char ',' ∨ point = .char '\x7d') (fuel room : Nat) (rest : Source) :
    readValue (fuel + 1) room ((ones n).map .char ++ point :: rest) = .error .tooManyDigits := by
  obtain ⟨more, rfl⟩ : ∃ more, n = more + 1 := ⟨n - 1, by omega⟩
  have hdigits : ∀ c ∈ ones (more + 1), c.isDigit = true := fun c hc => by
    rw [List.eq_of_mem_replicate hc]
    rfl
  have hnumber : readNumber ((ones (more + 1)).map .char ++ point :: rest) = .error .tooManyDigits :=
    readNumber_of_length hdigits (by simpa [ones] using h) (by simp [ones, List.replicate_succ]) hpoint rest
  exact hnumber

/-- An object with an integer of too many digits in its first field is not read. -/
theorem readValue_ones_field {n : Nat} (h : Numeral.maxDigits < n) {point : CodePoint}
    (hpoint : point = .char ',' ∨ point = .char '\x7d') (fuel room : Nat) (rest : Source) :
    readValue (fuel + 3) (room + 1) ("\x7b\"n\":".toList.map .char ++ ((ones n).map .char ++ point :: rest)) =
      .error .tooManyDigits := by
  obtain ⟨more, rfl⟩ : ∃ more, n = more + 1 := ⟨n - 1, by omega⟩
  exact readValue_object_of_error (readValue_ones h hpoint fuel room rest)

theorem read?_ones_field {n : Nat} (h : Numeral.maxDigits < n) (rest : List Char) :
    read? (String.ofList ("\x7b\"n\":".toList ++ (ones n ++ ',' :: rest))) = .ok none := by
  have hread (fuel : Nat) : readValue (fuel + 3) maxDepth
      (skipSpace (("\x7b\"n\":".toList ++ (ones n ++ ',' :: rest)).map .char)) = .error .tooManyDigits := by
    rw [List.map_append, List.map_append]
    exact readValue_ones_field h (.inl rfl) fuel 984 (rest.map .char)
  unfold read? read
  rw [String.toList_ofList, readSource_of_error hread (by simp)]

/-- A list of such an object is not read either. -/
theorem read?_ones_row {n : Nat} (h : Numeral.maxDigits < n) {c : Char} (hc : c = ',' ∨ c = '\x7d')
    (rest : List Char) : read? (String.ofList ('[' :: ("\x7b\"n\":".toList ++ (ones n ++ c :: rest)))) = .ok none := by
  have hpoint : CodePoint.char c = .char ',' ∨ CodePoint.char c = .char '\x7d' :=
    hc.imp (congrArg CodePoint.char) (congrArg CodePoint.char)
  have hread (fuel : Nat) : readValue (fuel + 5) maxDepth
      (skipSpace (('[' :: ("\x7b\"n\":".toList ++ (ones n ++ c :: rest))).map .char)) = .error .tooManyDigits := by
    rw [List.map_cons, List.map_append, List.map_append]
    exact readValue_list_of_error (readValue_ones_field h hpoint fuel 983 (rest.map .char)) rfl (by decide)
  unfold read? read
  rw [String.toList_ofList, readSource_of_error hread (by simp; omega)]

end ODataBrowser.Json
