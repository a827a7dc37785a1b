import Mathlib.Algebra.Group.Even
import Mathlib.Algebra.Ring.Parity
import ODataBrowser.Proofs.Json.Text
import ODataBrowser.Query.Literal

/-!
# Texts read back from their literals

Writing a text as a literal and reading the literal are inverse to each other (`decodeTextOf_stringText`): every text is
read back from its literal. A literal is written back as it is just if it has an apostrophe at each end and apostrophes
stand in rows of even length between them (`IsTextLiteral`). All of this is about code points, so it holds of texts with
lone surrogates too.
-/

namespace ODataBrowser.Query

/-- The code point of an apostrophe. -/
abbrev apostrophe : CodePoint := .char '\''

/-! ## Rows of a mark -/

section

variable {α : Type} {mark c : α} {cs rest : List α}

/-- Whether every longest row of a mark in a text has an even length. -/
def HasEvenRows (mark : α) (cs : List α) : Prop :=
  ∀ before n after, cs = before ++ List.replicate n mark ++ after → before.getLast? ≠ some mark →
    after.head? ≠ some mark → Even n

theorem hasEvenRows_nil : HasEvenRows mark [] := by
  intro before n after h _ _
  have hn : n = 0 := by
    have := congrArg List.length h
    simp only [List.length_nil, List.length_append, List.length_replicate] at this
    omega
  rw [hn]
  exact Even.zero

theorem HasEvenRows.tail (h : HasEvenRows mark (c :: rest)) (hc : c ≠ mark) : HasEvenRows mark rest := by
  rintro before n after rfl hbefore hafter
  refine h (c :: before) n after rfl ?_ hafter
  rw [List.getLast?_cons]
  cases hlast : before.getLast? with
  | none => simpa using hc
  | some d => simpa [hlast] using hbefore

theorem HasEvenRows.cons (h : HasEvenRows mark rest) (hc : c ≠ mark) : HasEvenRows mark (c :: rest) := by
  intro before n after heq hbefore hafter
  cases before with
  | nil =>
    cases n with
    | zero => exact Even.zero
    | succ n => exact absurd (List.cons.inj heq).1 hc
  | cons d before =>
    refine h before n after (List.cons.inj heq).2 (fun hlast => hbefore ?_) hafter
    rw [List.getLast?_cons, hlast, Option.getD_some]

theorem HasEvenRows.tail_tail (h : HasEvenRows mark (mark :: mark :: rest)) : HasEvenRows mark rest := by
  rintro before n after rfl hbefore hafter
  cases before with
  | nil => exact (Nat.even_add.1 (h [] (n + 2) after rfl hbefore hafter)).2 even_two
  | cons c before => exact h (mark :: mark :: c :: before) n after rfl (by simpa using hbefore) hafter

theorem HasEvenRows.cons_cons (h : HasEvenRows mark rest) : HasEvenRows mark (mark :: mark :: rest) := by
  intro before n after heq hbefore hafter
  match before, n with
  | [], 0 | [], 1 =>
    -- The row would go on behind its end.
    simp only [List.nil_append, List.replicate, List.singleton_append, List.cons.injEq, true_and] at heq
    simp [← heq] at hafter
  | [], n + 2 =>
    have hrest := h [] n after (List.cons.inj (List.cons.inj heq).2).2 hbefore hafter
    exact Nat.even_add.2 (iff_of_true hrest even_two)
  | [c], n => exact absurd (congrArg some (List.cons.inj heq).1.symm) hbefore
  | c :: d :: before, n =>
    refine h before n after (List.cons.inj (List.cons.inj heq).2).2 (fun hlast => hbefore ?_) hafter
    rw [List.getLast?_cons, List.getLast?_cons, hlast, Option.getD_some, Option.getD_some]

theorem not_hasEvenRows_cons (hrest : rest.head? ≠ some mark) : ¬HasEvenRows mark (mark :: rest) := fun h =>
  absurd (h [] 1 rest rfl nofun hrest) Nat.not_even_one

end

/-! ## Doubled apostrophes -/

/-- Doubles every apostrophe of a row of code points. -/
def escapePoints (points : List CodePoint) : List CodePoint :=
  points.flatMap fun point => if point = apostrophe then [apostrophe, apostrophe] else [point]

theorem escapePoints_apostrophe (points : List CodePoint) :
    escapePoints (apostrophe :: points) = apostrophe :: apostrophe :: escapePoints points := rfl

theorem escapePoints_cons {point : CodePoint} (h : point ≠ apostrophe) (points : List CodePoint) :
    escapePoints (point :: points) = point :: escapePoints points := by
  rw [escapePoints, List.flatMap_cons, if_neg h]
  rfl

theorem escapePoints_append (points rest : List CodePoint) :
    escapePoints (points ++ rest) = escapePoints points ++ escapePoints rest :=
  List.flatMap_append

theorem map_char_escape (cs : List Char) : (escape cs).map .char = escapePoints (cs.map .char) := by
  induction cs with
  | nil => rfl
  | cons c cs ih =>
    by_cases hc : c = '\''
    · subst hc
      rw [List.map_cons, escapePoints_apostrophe, ← ih]
      rfl
    · rw [List.map_cons, escapePoints_cons (by simpa using hc), ← ih, escape, List.flatMap_cons, if_neg hc]
      rfl

theorem mapRunsFrom_escape (run : List Char) (points : List CodePoint) :
    JsonText.mapRunsFrom escape run points = escapePoints (run.reverse.map .char ++ points) := by
  induction points generalizing run with
  | nil => rw [JsonText.mapRunsFrom, map_char_escape, List.append_nil]
  | cons point points ih =>
    cases point with
    | char c => rw [JsonText.mapRunsFrom, ih, List.reverse_cons, List.map_append, List.append_assoc]; rfl
    | lone s =>
      have hlone : CodePoint.lone s ≠ apostrophe := by simp
      have hrest : JsonText.mapRunsFrom escape [] points = escapePoints points := ih []
      rw [JsonText.mapRunsFrom, hrest, map_char_escape, escapePoints_append, escapePoints_cons hlone]

/-- Between its lone surrogates, a text is escaped like its code points. -/
theorem points_mapRuns_escape (t : JsonText) : (t.mapRuns escape).points = escapePoints t.points := by
  cases t with
  | string s => rw [JsonText.mapRuns, JsonText.points_ofChars, map_char_escape]; rfl
  | broken before first after =>
    rw [JsonText.mapRuns, JsonText.points_ofPoints, mapRunsFrom_escape]
    · rfl
    · simp

/-! ## Reading what was doubled -/

theorem unescape_cons {point : CodePoint} {points : List CodePoint}
    (h : point = apostrophe → points.head? ≠ some apostrophe) :
    unescape (point :: points) = point :: unescape points := by
  rw [unescape]
  rintro rest rfl rfl
  exact h rfl rfl

/-- Doubled apostrophes are read as they were. -/
theorem unescape_escapePoints (points : List CodePoint) : unescape (escapePoints points) = points := by
  induction points with
  | nil => rfl
  | cons point points ih =>
    by_cases h : point = apostrophe
    · rw [h, escapePoints_apostrophe, unescape, ih]
    · rw [escapePoints_cons h, unescape_cons fun heq => absurd heq h, ih]

theorem hasEvenRows_escapePoints (points : List CodePoint) : HasEvenRows apostrophe (escapePoints points) := by
  induction points with
  | nil => exact hasEvenRows_nil
  | cons point points ih =>
    by_cases h : point = apostrophe
    · rw [h, escapePoints_apostrophe]
      exact ih.cons_cons
    · rw [escapePoints_cons h]
      exact ih.cons h

/-- Apostrophes in rows of even length are doubled ones. -/
theorem escapePoints_unescape {points : List CodePoint} (h : HasEvenRows apostrophe points) :
    escapePoints (unescape points) = points := by
  induction points using unescape.induct with
  | case1 rest ih => rw [unescape, escapePoints_apostrophe, ih h.tail_tail]
  | case2 point rest hpair ih =>
    have hsingle : point = apostrophe → rest.head? ≠ some apostrophe := by
      rintro rfl hhead
      obtain ⟨rest', rfl⟩ := List.head?_eq_some_iff.1 hhead
      exact hpair rest' rfl rfl
    have hpoint : point ≠ apostrophe := by
      rintro rfl
      exact not_hasEvenRows_cons (hsingle rfl) h
    rw [unescape_cons hsingle, escapePoints_cons hpoint, ih (h.tail hpoint)]
  | case3 => rfl

/-! ## Literals -/

/-- Whether a text is the literal of a text: an apostrophe at each end, and between them apostrophes in rows of even
length only. -/
def IsTextLiteral (t : JsonText) : Prop :=
  ∃ body, t.points = apostrophe :: body ++ [apostrophe] ∧ HasEvenRows apostrophe body

theorem unquote_quoted (body : List CodePoint) : unquote (apostrophe :: body ++ [apostrophe]) = body := by
  simp [unquote]

theorem points_between (front back : List Char) (t : JsonText) :
    (t.between front back).points = front.map .char ++ t.points ++ back.map .char := by
  cases t with
  | string s => rw [JsonText.between, JsonText.points_ofChars, List.map_append, List.map_append]; rfl
  | broken before first after => simp [JsonText.between, JsonText.points]

/-- The literal of a text, by its code points. -/
theorem exists_stringText (t : JsonText) :
    ∃ l, stringText (.textual t) = .ok l ∧ l.points = apostrophe :: escapePoints t.points ++ [apostrophe] :=
  ⟨_, rfl, by rw [points_between, points_mapRuns_escape]; rfl⟩

/-- The text of a literal, by its code points. -/
theorem decodeTextOf_eq {l : JsonText} {body : List CodePoint}
    (h : l.points = apostrophe :: body ++ [apostrophe]) :
    decodeTextOf (.textual l) = .ok (.ofPoints (unescape body)) := by
  rw [decodeTextOf, decodeText, h, unquote_quoted]

/-- **Texts and their literals stand for each other.** Every text is written as a literal, from which it is read back;
and a text is written back as it is from what it is read as just if it is a literal: apostrophes at its two ends, and
only rows of an even number of apostrophes between them. -/
theorem decodeTextOf_stringText (t l : JsonText) :
    (∃ literal, stringText (.textual t) = .ok literal ∧ IsTextLiteral literal ∧
      decodeTextOf (.textual literal) = .ok t) ∧
    (IsTextLiteral l ↔ ∃ text, decodeTextOf (.textual l) = .ok text ∧ stringText (.textual text) = .ok l) := by
  refine ⟨?_, ?_, ?_⟩
  · obtain ⟨literal, hliteral, hpoints⟩ := exists_stringText t
    refine ⟨literal, hliteral, ⟨_, hpoints, hasEvenRows_escapePoints _⟩, ?_⟩
    rw [decodeTextOf_eq hpoints, unescape_escapePoints, JsonText.ofPoints_points]
  · rintro ⟨body, hpoints, hrows⟩
    obtain ⟨literal, hliteral, hwritten⟩ := exists_stringText (.ofPoints (unescape body))
    refine ⟨_, decodeTextOf_eq hpoints, hliteral.trans (congrArg Except.ok ?_)⟩
    rw [JsonText.points_ofPoints, escapePoints_unescape hrows, ← hpoints] at hwritten
    rw [← JsonText.ofPoints_points literal, hwritten, JsonText.ofPoints_points]
  · rintro ⟨text, -, hliteral⟩
    obtain ⟨literal, hsame, hpoints⟩ := exists_stringText text
    obtain rfl := Except.ok.inj (hliteral.symm.trans hsame)
    exact ⟨_, hpoints, hasEvenRows_escapePoints _⟩

/-- A lone apostrophe in a literal is read, but written back doubled. -/
example : decodeTextOf (.text "'it's'") = .ok (.string "it's") ∧
    stringText (.text "it's") = .ok (.string "'it''s'") :=
  ⟨rfl, rfl⟩

end ODataBrowser.Query
