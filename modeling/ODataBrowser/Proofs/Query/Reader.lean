import Mathlib.Data.List.Basic
import Mathlib.Data.List.TakeWhile
import ODataBrowser.Proofs.Query.TextLiteral
import ODataBrowser.Query.Filter

/-!
# Reading filter expressions

A filter expression is read from left to right by its grammar alone: clauses joined by `and`, where a clause
is a call with a field and a literal, or a comparison. A literal is a number or a truth value, or it starts at
an apostrophe and ends at the next one that is not doubled. An expression is read code point by code point, since
between apostrophes there may be lone surrogates. A list of clauses whose fields hold only field characters and
whose literals are literals is read back as it was written (`readFilter_joinedPoints`).
-/

namespace ODataBrowser.Query

open Text

/-! ## Numbers -/

/-- The text behind a row of digits, none if it starts with no digit. -/
def behindDigits? (cs : List Char) : Option (List Char) :=
  if (cs.takeWhile Char.isDigit).isEmpty then none else some (cs.dropWhile Char.isDigit)

/-- Whether a text is empty or an exponent: its letter, a sign or none, and digits. -/
def isExponent : List Char → Bool
  | [] => true
  | mark :: cs => Numeral.isExponentMark mark && behindDigits? (Numeral.splitSign cs).2 == some []

/-- Whether a text is a number without a sign: digits, a fraction or none, and an exponent or none. -/
def isUnsigned (cs : List Char) : Bool :=
  match behindDigits? cs with
  | none => false
  | some ('.' :: cs) => (behindDigits? cs).any isExponent
  | some cs => isExponent cs

/-- Whether a text is a number. -/
def isNumber (cs : List Char) : Bool :=
  isUnsigned (Numeral.splitSign cs).2

/-! ## The reader -/

/-- Whether a literal without apostrophes may hold the character. -/
def isTokenChar (c : Char) : Bool :=
  c.isAlphanum || c == '+' || c == '-' || c == '.'

/-- Whether a text is a literal without apostrophes. -/
def isToken (cs : List Char) : Bool :=
  isNumber cs || cs == boolLiteral true || cs == boolLiteral false

/-- Splits off the characters at the start that satisfy `p`. -/
def splitChars (p : Char → Bool) : List CodePoint → List Char × List CodePoint
  | .char c :: rest =>
    if p c then
      let (cs, rest) := splitChars p rest
      (c :: cs, rest)
    else ([], .char c :: rest)
  | rest => ([], rest)

/-- The code points of a word. -/
def wordPoints (word : String) : List CodePoint :=
  word.toList.map .char

/-- The code points behind a word, none where they do not start with it. -/
def behindWord? (word : String) (points : List CodePoint) : Option (List CodePoint) :=
  points.dropPrefix? (wordPoints word)

/-- Reads on behind the first apostrophe of a literal: to the next one that is not doubled. -/
def readQuoted : List CodePoint → Option (List CodePoint × List CodePoint)
  | .char '\'' :: .char '\'' :: points =>
    (readQuoted points).map fun (body, rest) => (apostrophe :: apostrophe :: body, rest)
  | .char '\'' :: points => some ([apostrophe], points)
  | point :: points => (readQuoted points).map fun (body, rest) => (point :: body, rest)
  | [] => none

/-- Reads a literal. -/
def readLiteral : List CodePoint → Option (JsonText × List CodePoint)
  | .char '\'' :: points => (readQuoted points).map fun (body, rest) => (.ofPoints (apostrophe :: body), rest)
  | points =>
    let (token, rest) := splitChars isTokenChar points
    if isToken token then some (.ofChars token, rest) else none

/-- Reads a field name. -/
def readField (points : List CodePoint) : Option (List Char × List CodePoint) :=
  let (field, rest) := splitChars isFieldChar points
  if field.isEmpty then none else some (field, rest)

/-- Reads the field and the literal of a call. -/
def readCall (mode : MatchMode) (points : List CodePoint) : Option (Clause × List CodePoint) := do
  let (field, points) ← readField points
  let points ← behindWord? "," points
  let (literal, points) ← readLiteral points
  let points ← behindWord? ")" points
  return (⟨field, mode, literal⟩, points)

/-- Reads the literal and the field of a call that asks whether the one is contained in the other. -/
def readContains (points : List CodePoint) : Option (Clause × List CodePoint) := do
  let (literal, points) ← readLiteral points
  let points ← behindWord? "," points
  let (field, points) ← readField points
  let points ← behindWord? ")" points
  return (⟨field, .contains, literal⟩, points)

/-- Reads a field, whether it is to be equal or not, and a literal. -/
def readComparison (points : List CodePoint) : Option (Clause × List CodePoint) := do
  let (field, points) ← readField points
  match behindWord? " eq " points with
  | some points =>
    let (literal, points) ← readLiteral points
    return (⟨field, .equals, literal⟩, points)
  | none =>
    let points ← behindWord? " ne " points
    let (literal, points) ← readLiteral points
    return (⟨field, .notEquals, literal⟩, points)

/-- Reads a clause. -/
def readClause (points : List CodePoint) : Option (Clause × List CodePoint) :=
  if let some points := behindWord? "startswith(" points then readCall .startsWith points
  else if let some points := behindWord? "endswith(" points then readCall .endsWith points
  else if let some points := behindWord? "substringof(" points then readContains points
  else readComparison points

/-- Reads a filter expression to its end. -/
def readFilter (points : List CodePoint) : Option (List Clause) := do
  let (clause, rest) ← readClause points
  if rest.isEmpty then return [clause]
  else
    let rest ← behindWord? " and " rest
    -- A clause is never empty, so this always holds.
    if rest.length < points.length then
      let others ← readFilter rest
      return clause :: others
    else none
termination_by points.length

/-! ## Reading back literals -/

theorem splitWhile_append {p : Char → Bool} {cs rest : List Char} (hcs : ∀ c ∈ cs, p c = true)
    (hrest : ∀ c ∈ rest.head?, p c = false) : splitWhile p (cs ++ rest) = (cs, rest) := by
  have htake : rest.takeWhile p = [] := by
    cases rest with
    | nil => rfl
    | cons c rest => rw [List.takeWhile_cons_of_neg (by simp [hrest c rfl])]
  have hdrop : rest.dropWhile p = rest := by
    cases rest with
    | nil => rfl
    | cons c rest => rw [List.dropWhile_cons_of_neg (by simp [hrest c rfl])]
  rw [splitWhile, List.takeWhile_append_of_pos hcs, List.dropWhile_append_of_pos hcs, htake, hdrop,
    List.append_nil]

/-- Whether a text is a row of digits. -/
def IsDigits (cs : List Char) : Prop :=
  cs ≠ [] ∧ ∀ c ∈ cs, c.isDigit = true

theorem behindDigits?_append {cs rest : List Char} (hcs : IsDigits cs)
    (hrest : ∀ c ∈ rest.head?, c.isDigit = false) : behindDigits? (cs ++ rest) = some rest := by
  have h := splitWhile_append hcs.2 hrest
  rw [splitWhile, Prod.mk.injEq] at h
  rw [behindDigits?, h.1, h.2, if_neg (by simpa using hcs.1)]

theorem exists_of_behindDigits? {cs rest : List Char} (h : behindDigits? cs = some rest) :
    ∃ digits, IsDigits digits ∧ cs = digits ++ rest := by
  unfold behindDigits? at h
  split at h
  · contradiction
  · rename_i hne
    refine ⟨cs.takeWhile Char.isDigit, ⟨by simpa using hne, fun _ => List.mem_takeWhile_imp⟩, ?_⟩
    rw [← Option.some.inj h, List.takeWhile_append_dropWhile]

theorem isTokenChar_of_isDigit {c : Char} (h : c.isDigit = true) : isTokenChar c = true := by
  simp [isTokenChar, Char.isAlphanum, h]

/-- What stands before the digits of a number or an exponent is a sign. -/
theorem isTokenChar_of_splitSign {cs : List Char}
    (h : ∀ c ∈ (Numeral.splitSign cs).2, isTokenChar c = true) : ∀ c ∈ cs, isTokenChar c = true := by
  unfold Numeral.splitSign at h
  split at h
  · exact List.forall_mem_cons.2 ⟨rfl, h⟩
  · exact List.forall_mem_cons.2 ⟨rfl, h⟩
  · exact h

theorem isTokenChar_of_behindDigits? {cs rest : List Char} (h : behindDigits? cs = some rest)
    (hrest : ∀ c ∈ rest, isTokenChar c = true) : ∀ c ∈ cs, isTokenChar c = true := by
  obtain ⟨digits, hdigits, rfl⟩ := exists_of_behindDigits? h
  rw [List.forall_mem_append]
  exact ⟨fun c hc => isTokenChar_of_isDigit (hdigits.2 c hc), hrest⟩

theorem isTokenChar_of_isExponent {cs : List Char} (h : isExponent cs = true) :
    ∀ c ∈ cs, isTokenChar c = true := by
  cases cs with
  | nil => simp
  | cons mark cs =>
    rw [isExponent, Bool.and_eq_true, beq_iff_eq, Numeral.isExponentMark, Bool.or_eq_true,
      beq_iff_eq, beq_iff_eq] at h
    obtain ⟨hmark, hdigits⟩ := h
    refine List.forall_mem_cons.2 ⟨?_, isTokenChar_of_splitSign ?_⟩
    · rcases hmark with rfl | rfl <;> decide
    · exact isTokenChar_of_behindDigits? hdigits (by simp)

theorem isTokenChar_of_isNumber {cs : List Char} (h : isNumber cs = true) :
    ∀ c ∈ cs, isTokenChar c = true := by
  refine isTokenChar_of_splitSign ?_
  rw [isNumber, isUnsigned] at h
  split at h
  · contradiction
  · rename_i rest hwhole
    refine isTokenChar_of_behindDigits? hwhole (List.forall_mem_cons.2 ⟨rfl, ?_⟩)
    obtain ⟨exponent, hfraction, hexponent⟩ := (Option.any_eq_true _ _).1 h
    exact isTokenChar_of_behindDigits? hfraction (isTokenChar_of_isExponent hexponent)
  · rename_i hwhole
    exact isTokenChar_of_behindDigits? hwhole (isTokenChar_of_isExponent h)

theorem isTokenChar_of_isToken {cs : List Char} (h : isToken cs = true) :
    ∀ c ∈ cs, isTokenChar c = true := by
  simp only [isToken, Bool.or_eq_true, beq_iff_eq] at h
  rcases h with (h | rfl) | rfl
  · exact isTokenChar_of_isNumber h
  · exact List.all_eq_true.1 rfl
  · exact List.all_eq_true.1 rfl

/-- The characters at the start are split off where a character that satisfies `p` does not follow. -/
theorem splitChars_append {p : Char → Bool} {cs : List Char} {rest : List CodePoint} (hcs : ∀ c ∈ cs, p c = true)
    (hrest : ∀ c, rest.head? = some (.char c) → p c = false) :
    splitChars p (cs.map .char ++ rest) = (cs, rest) := by
  induction cs with
  | nil =>
    match rest with
    | [] | .lone _ :: _ => rfl
    | .char c :: rest => exact if_neg (by simp [hrest c rfl])
  | cons c cs ih =>
    rw [List.forall_mem_cons] at hcs
    rw [List.map_cons, List.cons_append, splitChars, if_pos hcs.1, ih hcs.2]

/-- A literal: a token, or a text between apostrophes with those inside doubled. -/
def IsLiteral (t : JsonText) : Prop :=
  (∃ token, isToken token = true ∧ t = .ofChars token) ∨
    ∃ points, t.points = apostrophe :: escapePoints points ++ [apostrophe]

/-- Whether what follows a literal ends it. -/
def EndsLiteral (rest : List CodePoint) : Prop :=
  ∀ c, rest.head? = some (.char c) → isTokenChar c = false ∧ c ≠ '\''

theorem readQuoted_escapePoints (points : List CodePoint) {rest : List CodePoint}
    (hrest : rest.head? ≠ some apostrophe) :
    readQuoted (escapePoints points ++ apostrophe :: rest) = some (escapePoints points ++ [apostrophe], rest) := by
  induction points with
  | nil =>
    match rest with
    | [] | .lone _ :: _ => rfl
    | .char c :: rest =>
      have hc : c ≠ '\'' := by simpa using hrest
      simp [escapePoints, readQuoted, hc]
  | cons point points ih =>
    by_cases h : point = apostrophe
    · rw [h, escapePoints_apostrophe, List.cons_append, List.cons_append, readQuoted, ih]
      rfl
    · rw [escapePoints_cons h, List.cons_append, readQuoted, ih]
      · rfl
      · rintro _ rfl
        exact absurd rfl h
      · rintro rfl
        exact absurd rfl h

theorem readLiteral_append {t : JsonText} {rest : List CodePoint} (ht : IsLiteral t) (hrest : EndsLiteral rest) :
    readLiteral (t.points ++ rest) = some (t, rest) := by
  rcases ht with ⟨token, htoken, rfl⟩ | ⟨points, hpoints⟩
  · have hchars := isTokenChar_of_isToken htoken
    have hfirst : ∀ tail, token.map .char ++ rest ≠ apostrophe :: tail := by
      intro tail h
      cases token with
      | nil => exact absurd htoken (by decide)
      | cons c token =>
        have hc : c = '\'' := CodePoint.char.inj (List.cons.inj h).1
        exact absurd (hchars c List.mem_cons_self) (by rw [hc]; decide)
    rw [JsonText.points_ofChars, readLiteral, splitChars_append hchars fun c hc => (hrest c hc).1]
    · simp [htoken]
    · exact hfirst
  · have hread := readQuoted_escapePoints points fun h => (hrest _ h).2 rfl
    have ht : JsonText.ofPoints (apostrophe :: (escapePoints points ++ [apostrophe])) = t := by
      rw [← List.cons_append, ← hpoints, JsonText.ofPoints_points]
    rw [hpoints, List.cons_append, List.cons_append, List.append_assoc, List.singleton_append, readLiteral, hread]
    exact congrArg (fun literal => some (literal, rest)) ht

/-! ## Reading back clauses -/

/-- Whether a clause is made of a field name and a literal. -/
structure Clause.WellFormed (c : Clause) : Prop where
  field_ne_nil : c.field ≠ []
  isFieldChar_of_mem : ∀ d ∈ c.field, isFieldChar d = true
  isLiteral : IsLiteral c.literal

/-- The code points of a clause are those of its literal in the frame. -/
theorem Clause.points_text (c : Clause) :
    c.text.points = (clauseFrame c.field c.mode).1.map .char ++ c.literal.points ++
      (clauseFrame c.field c.mode).2.map .char :=
  points_between ..

theorem endsLiteral_cons {d : Char} {rest : List CodePoint} (h : isTokenChar d = false ∧ d ≠ '\'') :
    EndsLiteral (.char d :: rest) := by
  intro c hc
  rwa [← CodePoint.char.inj (Option.some.inj hc)]

theorem behindWord?_append (word : String) (rest : List CodePoint) :
    behindWord? word (wordPoints word ++ rest) = some rest :=
  List.dropPrefix?_append_of_beq rest (beq_self_eq_true (wordPoints word))

/-- No comparison starts like a call: the first character behind a field name is no parenthesis. -/
theorem dropPrefix?_call {name field : List Char} (rest : List CodePoint) (hname : ∀ d ∈ name, isFieldChar d = true)
    (hfield : ∀ d ∈ field, isFieldChar d = true) :
    (field.map CodePoint.char ++ .char ' ' :: rest).dropPrefix? ((name ++ ['(']).map .char) = none := by
  induction name generalizing field with
  | nil =>
    cases field with
    | nil => rfl
    | cons d field =>
      have hd : d ≠ '(' := by
        rintro rfl
        exact absurd (hfield _ List.mem_cons_self) (by decide)
      simp [List.dropPrefix?, hd]
  | cons n name ih =>
    rw [List.forall_mem_cons] at hname
    cases field with
    | nil =>
      have hn : ' ' ≠ n := by
        rintro rfl
        exact absurd hname.1 (by decide)
      simp [List.dropPrefix?, hn]
    | cons d field =>
      have := ih hname.2 fun e he => hfield e (List.mem_cons_of_mem d he)
      simp only [List.map_append, List.map_cons, List.map_nil] at this
      simp [List.dropPrefix?, this]

section

variable {c : Clause} (h : c.WellFormed) {rest : List CodePoint}
include h

theorem readField_append (hrest : ∀ d, rest.head? = some (.char d) → isFieldChar d = false) :
    readField (c.field.map .char ++ rest) = some (c.field, rest) := by
  rw [readField, splitChars_append h.isFieldChar_of_mem hrest]
  simp [h.field_ne_nil]

/-- A field name ends before each character that it may not hold. -/
theorem readField_append_cons {d : Char} (hd : isFieldChar d = false) :
    readField (c.field.map .char ++ .char d :: rest) = some (c.field, .char d :: rest) :=
  readField_append h fun e he => by rwa [← CodePoint.char.inj (Option.some.inj he)]

theorem readCall_append (mode : MatchMode) :
    readCall mode (c.field.map .char ++ (wordPoints "," ++ (c.literal.points ++ (wordPoints ")" ++ rest)))) =
      some (⟨c.field, mode, c.literal⟩, rest) := by
  have hfield : readField (c.field.map .char ++ (wordPoints "," ++ (c.literal.points ++ (wordPoints ")" ++ rest)))) =
      some (c.field, wordPoints "," ++ (c.literal.points ++ (wordPoints ")" ++ rest))) :=
    readField_append_cons h (by decide)
  have hliteral : readLiteral (c.literal.points ++ (wordPoints ")" ++ rest)) =
      some (c.literal, wordPoints ")" ++ rest) :=
    readLiteral_append h.isLiteral (endsLiteral_cons (by decide))
  simp [readCall, hfield, hliteral, behindWord?_append]

theorem readContains_append :
    readContains (c.literal.points ++ (wordPoints "," ++ (c.field.map .char ++ (wordPoints ")" ++ rest)))) =
      some (⟨c.field, .contains, c.literal⟩, rest) := by
  have hliteral : readLiteral (c.literal.points ++ (wordPoints "," ++ (c.field.map .char ++ (wordPoints ")" ++ rest)))) =
      some (c.literal, wordPoints "," ++ (c.field.map .char ++ (wordPoints ")" ++ rest))) :=
    readLiteral_append h.isLiteral (endsLiteral_cons (by decide))
  have hfield : readField (c.field.map .char ++ (wordPoints ")" ++ rest)) = some (c.field, wordPoints ")" ++ rest) :=
    readField_append_cons h (by decide)
  simp [readContains, hfield, hliteral, behindWord?_append]

/-- What starts with a field name and a space can only be a comparison. -/
theorem readClause_comparison (rest : List CodePoint) :
    readClause (c.field.map .char ++ .char ' ' :: rest) = readComparison (c.field.map .char ++ .char ' ' :: rest) := by
  have hcall (name : List Char) (hname : ∀ d ∈ name, isFieldChar d = true) :
      (c.field.map CodePoint.char ++ .char ' ' :: rest).dropPrefix? ((name ++ ['(']).map .char) = none :=
    dropPrefix?_call rest hname h.isFieldChar_of_mem
  have hstarts : behindWord? "startswith(" (c.field.map .char ++ .char ' ' :: rest) = none :=
    hcall "startswith".toList (List.all_eq_true.1 rfl)
  have hends : behindWord? "endswith(" (c.field.map .char ++ .char ' ' :: rest) = none :=
    hcall "endswith".toList (List.all_eq_true.1 rfl)
  have hcontains : behindWord? "substringof(" (c.field.map .char ++ .char ' ' :: rest) = none :=
    hcall "substringof".toList (List.all_eq_true.1 rfl)
  simp only [readClause, hstarts, hends, hcontains]

theorem readComparison_equals (hrest : EndsLiteral rest) :
    readComparison (c.field.map .char ++ (wordPoints " eq " ++ (c.literal.points ++ rest))) =
      some (⟨c.field, .equals, c.literal⟩, rest) := by
  have hfield : readField (c.field.map .char ++ (wordPoints " eq " ++ (c.literal.points ++ rest))) =
      some (c.field, wordPoints " eq " ++ (c.literal.points ++ rest)) := readField_append_cons h (by decide)
  rw [readComparison, hfield]
  simp only [Option.bind_eq_bind, Option.bind_some, behindWord?_append, readLiteral_append h.isLiteral hrest]
  rfl

theorem readComparison_notEquals (hrest : EndsLiteral rest) :
    readComparison (c.field.map .char ++ (wordPoints " ne " ++ (c.literal.points ++ rest))) =
      some (⟨c.field, .notEquals, c.literal⟩, rest) := by
  have hfield : readField (c.field.map .char ++ (wordPoints " ne " ++ (c.literal.points ++ rest))) =
      some (c.field, wordPoints " ne " ++ (c.literal.points ++ rest)) := readField_append_cons h (by decide)
  have heq : behindWord? " eq " (wordPoints " ne " ++ (c.literal.points ++ rest)) = none := rfl
  rw [readComparison, hfield]
  simp only [Option.bind_eq_bind, Option.bind_some, heq, behindWord?_append, readLiteral_append h.isLiteral hrest]
  rfl

/-- **A clause is read back as it was written, whatever ends it.** -/
theorem readClause_append (hrest : EndsLiteral rest) : readClause (c.text.points ++ rest) = some (c, rest) := by
  have hcall (word : String) :
      (word.toList ++ c.field ++ [',']).map .char ++ c.literal.points ++ [')'].map .char ++ rest =
        wordPoints word ++
          (c.field.map .char ++ (wordPoints "," ++ (c.literal.points ++ (wordPoints ")" ++ rest)))) := by
    simp [wordPoints]
  have hcontains (word : String) :
      word.toList.map .char ++ c.literal.points ++ (',' :: c.field ++ [')']).map .char ++ rest =
        wordPoints word ++
          (c.literal.points ++ (wordPoints "," ++ (c.field.map .char ++ (wordPoints ")" ++ rest)))) := by
    simp [wordPoints]
  have hcomparison (word : String) :
      (c.field ++ word.toList).map .char ++ c.literal.points ++ [].map .char ++ rest =
        c.field.map .char ++ (wordPoints word ++ (c.literal.points ++ rest)) := by
    simp [wordPoints]
  have hends (rest : List CodePoint) : behindWord? "startswith(" (wordPoints "endswith(" ++ rest) = none := rfl
  have hcontainsStarts (rest : List CodePoint) :
      behindWord? "startswith(" (wordPoints "substringof(" ++ rest) = none := rfl
  have hcontainsEnds (rest : List CodePoint) :
      behindWord? "endswith(" (wordPoints "substringof(" ++ rest) = none := rfl
  rw [c.points_text]
  obtain ⟨field, mode, literal⟩ := c
  -- The word at the start tells the calls apart, and a field name and a space tell them from comparisons.
  cases mode with
  | startsWith =>
    refine (congrArg readClause (hcall "startswith(")).trans ?_
    rw [readClause, behindWord?_append]
    exact readCall_append h .startsWith
  | endsWith =>
    refine (congrArg readClause (hcall "endswith(")).trans ?_
    rw [readClause, hends, behindWord?_append]
    exact readCall_append h .endsWith
  | contains =>
    refine (congrArg readClause (hcontains "substringof(")).trans ?_
    rw [readClause, hcontainsStarts, hcontainsEnds, behindWord?_append]
    exact readContains_append h
  | equals =>
    refine (congrArg readClause (hcomparison " eq ")).trans ?_
    exact (readClause_comparison h _).trans (readComparison_equals h hrest)
  | notEquals =>
    refine (congrArg readClause (hcomparison " ne ")).trans ?_
    exact (readClause_comparison h _).trans (readComparison_notEquals h hrest)

end

/-! ## Reading back filters -/

/-- The code points of clauses joined by `and`. -/
def joinedPoints (cs : List Clause) : List CodePoint :=
  ((cs.map Clause.text).intersperse (.string " and ")).flatMap JsonText.points

/-- **Clauses joined by `and` are read back as they were written.** -/
theorem readFilter_joinedPoints {cs : List Clause} (hne : cs ≠ []) (h : ∀ c ∈ cs, c.WellFormed) :
    readFilter (joinedPoints cs) = some cs := by
  induction cs with
  | nil => contradiction
  | cons c cs ih =>
    rw [List.forall_mem_cons] at h
    cases cs with
    | nil =>
      have hread : readClause (c.text.points ++ []) = some (c, []) := readClause_append h.1 (by simp [EndsLiteral])
      have htext : joinedPoints [c] = c.text.points ++ [] := rfl
      rw [htext, readFilter, hread]
      rfl
    | cons d cs =>
      have hrest := ih (List.cons_ne_nil d cs) h.2
      have htext : joinedPoints (c :: d :: cs) = c.text.points ++ (wordPoints " and " ++ joinedPoints (d :: cs)) := rfl
      generalize joinedPoints (d :: cs) = tail at hrest htext
      have hread : readClause (c.text.points ++ (wordPoints " and " ++ tail)) = some (c, wordPoints " and " ++ tail) :=
        readClause_append h.1 (endsLiteral_cons (by decide))
      have hlength : tail.length < (c.text.points ++ (wordPoints " and " ++ tail)).length := by
        have hword : 0 < (wordPoints " and ").length := by decide
        rw [List.length_append, List.length_append]
        omega
      rw [htext, readFilter, hread]
      simp only [Option.bind_eq_bind, Option.bind_some, behindWord?_append, hrest, if_pos hlength]
      rfl

end ODataBrowser.Query
