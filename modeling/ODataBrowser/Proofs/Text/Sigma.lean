import Mathlib.Data.List.Infix
import ODataBrowser.Proofs.Json.Text
import ODataBrowser.Text.Lowercase

/-!
# Lower case within a text

The lower case of a text is put together from those of its parts, each between the others (`lowerWithin_append`). What
stands around a part matters for its capital sigmas only, and for these only whether a cased character comes next
(`lowerWithin_congr`). So a word keeps its lower case in every text that holds it if the word itself settles all its
sigmas (`lowerWithin_infix_of_isSettled`), and only then (`exists_infix_of_not_isSettled`). All of this is about code
points, so it holds of texts with lone surrogates too.
-/

namespace ODataBrowser.Text

/-! ## What stands around a character -/

/-- Whether a code point is a character that case rules pass over. -/
def isPassedOver (p : CodePoint) : Bool :=
  p.isCharOf caseIgnorable.contains

/-- Whether the next code point that case rules do not pass over is a cased character. -/
def facesCased : List CodePoint → Bool
  | [] => false
  | p :: points => if isPassedOver p then facesCased points else p.isCharOf cased.contains

/-- The code point of a capital sigma. -/
abbrev capitalSigma : CodePoint := .char '\u03A3'

theorem isPassedOver_capitalSigma : isPassedOver capitalSigma = false := by decide

theorem facesCased_capitalSigma (points : List CodePoint) : facesCased (capitalSigma :: points) = true := by
  rw [facesCased, isPassedOver_capitalSigma, if_neg Bool.false_ne_true]
  decide

theorem facesCased_map (cs : List Char) : facesCased (cs.map .char) = meetsCased cs := by
  induction cs with
  | nil => rfl
  | cons c cs ih =>
    rw [List.map_cons, facesCased, meetsCased, List.dropWhile_cons, ih]
    change (if caseIgnorable.contains c = true then _ else cased.contains c) = _
    split <;> rfl

theorem facesCased_append_of_all {points : List CodePoint} (h : points.all isPassedOver = true)
    (rest : List CodePoint) : facesCased (points ++ rest) = facesCased rest := by
  induction points with
  | nil => rfl
  | cons p points ih =>
    rw [List.all_cons, Bool.and_eq_true] at h
    rw [List.cons_append, facesCased, if_pos h.1, ih h.2]

theorem facesCased_append_of_not_all {points : List CodePoint} (h : points.all isPassedOver = false)
    (rest : List CodePoint) : facesCased (points ++ rest) = facesCased points := by
  induction points with
  | nil => contradiction
  | cons p points ih =>
    rw [List.cons_append, facesCased, facesCased]
    by_cases hp : isPassedOver p = true
    · rw [List.all_cons, hp, Bool.true_and] at h
      rw [if_pos hp, if_pos hp, ih h]
    · rw [if_neg hp, if_neg hp]

theorem facesCased_eq_false_of_all {points : List CodePoint} (h : points.all isPassedOver = true) :
    facesCased points = false := by
  rw [← List.append_nil points, facesCased_append_of_all h]
  rfl

theorem facesCased_append_congr {rest rest' : List CodePoint} (h : facesCased rest = facesCased rest')
    (points : List CodePoint) : facesCased (points ++ rest) = facesCased (points ++ rest') := by
  cases hall : points.all isPassedOver with
  | true => rw [facesCased_append_of_all hall, facesCased_append_of_all hall, h]
  | false => rw [facesCased_append_of_not_all hall, facesCased_append_of_not_all hall]

/-! ## The lower case of a part of a text -/

/-- The lower case of a code point between those before it, nearest first, and those after it. -/
def lowerPoint (before : List CodePoint) (p : CodePoint) (after : List CodePoint) : List CodePoint :=
  match p with
  | .lone s => [.lone s]
  | .char c =>
    if c = '\u03A3' then
      if facesCased before && !facesCased after then [.char '\u03C2'] else [.char '\u03C3']
    else (lowerChar [] c []).map .char

/-- The lower case of a part of a text between the code points before it, nearest first, and those after it. -/
def lowerWithin (before : List CodePoint) : (points after : List CodePoint) → List CodePoint
  | [], _ => []
  | p :: points, after => lowerPoint before p (points ++ after) ++ lowerWithin (p :: before) points after

theorem lowerWithin_cons (before : List CodePoint) (p : CodePoint) (points after : List CodePoint) :
    lowerWithin before (p :: points) after =
      lowerPoint before p (points ++ after) ++ lowerWithin (p :: before) points after := rfl

theorem lowerPoint_capitalSigma (before after : List CodePoint) :
    lowerPoint before capitalSigma after =
      if facesCased before && !facesCased after then [.char '\u03C2'] else [.char '\u03C3'] := rfl

/-- A sigma is final between a cased character and none. -/
theorem lowerPoint_final {before after : List CodePoint} (hbefore : facesCased before = true)
    (hafter : facesCased after = false) : lowerPoint before capitalSigma after = [.char '\u03C2'] := by
  rw [lowerPoint_capitalSigma, hbefore, hafter]
  rfl

theorem lowerPoint_inner {before after : List CodePoint} (h : facesCased before = false ∨ facesCased after = true) :
    lowerPoint before capitalSigma after = [.char '\u03C3'] := by
  rw [lowerPoint_capitalSigma]
  rcases h with h | h <;> simp [h]

theorem lowerPoint_of_ne {p : CodePoint} (h : p ≠ capitalSigma) (before after before' after' : List CodePoint) :
    lowerPoint before p after = lowerPoint before' p after' := by
  cases p with
  | lone s => rfl
  | char c =>
    have hc : c ≠ '\u03A3' := fun hc => h (congrArg CodePoint.char hc)
    rw [lowerPoint, lowerPoint, if_neg hc, if_neg hc]

theorem lowerPoint_congr {before before' after after' : List CodePoint} (hbefore : facesCased before = facesCased before')
    (hafter : facesCased after = facesCased after') (p : CodePoint) :
    lowerPoint before p after = lowerPoint before' p after' := by
  by_cases hp : p = capitalSigma
  · rw [hp, lowerPoint_capitalSigma, lowerPoint_capitalSigma, hbefore, hafter]
  · exact lowerPoint_of_ne hp ..

theorem lowerPoint_ne_nil (before : List CodePoint) (p : CodePoint) (after : List CodePoint) :
    lowerPoint before p after ≠ [] := by
  cases p with
  | lone s => exact List.cons_ne_nil _ _
  | char c =>
    change (if c = '\u03A3' then _ else _) ≠ []
    unfold lowerChar
    split_ifs <;> exact List.cons_ne_nil _ _

/-- The lower case of a part depends on what stands around it by whether a cased character comes next. -/
theorem lowerWithin_congr {before before' after after' : List CodePoint}
    (hbefore : facesCased before = facesCased before') (hafter : facesCased after = facesCased after')
    (points : List CodePoint) : lowerWithin before points after = lowerWithin before' points after' := by
  induction points generalizing before before' with
  | nil => rfl
  | cons p points ih =>
    have hcons : facesCased (p :: before) = facesCased (p :: before') := facesCased_append_congr hbefore [p]
    rw [lowerWithin_cons, lowerWithin_cons, lowerPoint_congr hbefore (facesCased_append_congr hafter points), ih hcons]

theorem lowerWithin_append (before points rest after : List CodePoint) :
    lowerWithin before (points ++ rest) after =
      lowerWithin before points (rest ++ after) ++ lowerWithin (points.reverse ++ before) rest after := by
  induction points generalizing before with
  | nil => rfl
  | cons p points ih =>
    rw [List.cons_append, lowerWithin, lowerWithin, ih, List.reverse_cons, List.append_assoc, List.append_assoc,
      List.append_assoc]
    rfl

/-- The lower case of a text around a word in it. -/
theorem lowerWithin_around (front word back : List CodePoint) :
    lowerWithin [] (front ++ word ++ back) [] =
      lowerWithin [] front (word ++ back) ++ lowerWithin front.reverse word back ++
        lowerWithin (word.reverse ++ front.reverse) back [] := by
  rw [List.append_assoc, lowerWithin_append, lowerWithin_append, List.append_nil, List.append_nil, List.append_nil,
    List.append_assoc]

/-- A sigma is cased, so the parts of a text before and behind it do not see beyond it. -/
theorem lowerWithin_capitalSigma (before front back after : List CodePoint) :
    lowerWithin before (front ++ capitalSigma :: back) after =
      lowerWithin before front [capitalSigma] ++
        (lowerPoint (front.reverse ++ before) capitalSigma (back ++ after) ++ lowerWithin [capitalSigma] back after) := by
  have hcased (points : List CodePoint) : facesCased (capitalSigma :: points) = facesCased [capitalSigma] := by
    rw [facesCased_capitalSigma, facesCased_capitalSigma]
  rw [lowerWithin_append, lowerWithin_cons, List.cons_append, lowerWithin_congr rfl (hcased _) front,
    lowerWithin_congr (hcased _) rfl back]

/-- Without a capital sigma, it does not matter what stands around a part. -/
theorem lowerWithin_of_not_mem {points : List CodePoint} (h : capitalSigma ∉ points)
    (before after before' after' : List CodePoint) :
    lowerWithin before points after = lowerWithin before' points after' := by
  induction points generalizing before before' with
  | nil => rfl
  | cons p points ih =>
    rw [List.mem_cons, not_or] at h
    rw [lowerWithin_cons, lowerWithin_cons, ih h.2 (p :: before) (p :: before'), lowerPoint_of_ne (Ne.symm h.1)]

theorem lowerWithin_eq_nil_iff {before points after : List CodePoint} :
    lowerWithin before points after = [] ↔ points = [] := by
  cases points with
  | nil => exact iff_of_true rfl rfl
  | cons p points =>
    refine iff_of_false ?_ (List.cons_ne_nil _ _)
    rw [lowerWithin, List.append_eq_nil_iff, not_and_or]
    exact .inl (lowerPoint_ne_nil _ _ _)

theorem map_char_lowerFrom (before cs : List Char) :
    (lowerFrom before cs).map .char = lowerWithin (before.map .char) (cs.map .char) [] := by
  induction cs generalizing before with
  | nil => rfl
  | cons c cs ih =>
    have hchar : (lowerChar before c cs).map .char = lowerPoint (before.map .char) (.char c) (cs.map .char) := by
      rw [lowerPoint, facesCased_map, facesCased_map]
      unfold lowerChar
      split_ifs <;> rfl
    rw [lowerFrom, List.map_append, hchar, ih, List.map_cons, List.map_cons, lowerWithin_cons, List.append_nil]

theorem map_char_lowercase (cs : List Char) : (lowercase cs).map .char = lowerWithin [] (cs.map .char) [] :=
  map_char_lowerFrom [] cs

/-- A lone surrogate is neither cased nor passed over, so what stands beyond it does not matter. -/
theorem mapRunsFrom_lowercase (run : List Char) (points : List CodePoint) :
    JsonText.mapRunsFrom lowercase run points = lowerWithin [] (run.reverse.map .char ++ points) [] := by
  induction points generalizing run with
  | nil => rw [JsonText.mapRunsFrom, map_char_lowercase, List.append_nil]
  | cons p points ih =>
    cases p with
    | char c => rw [JsonText.mapRunsFrom, ih, List.reverse_cons, List.map_append, List.append_assoc]; rfl
    | lone s =>
      have hlone (rest : List CodePoint) : facesCased (.lone s :: rest) = facesCased [] := rfl
      rw [lowerWithin_append, lowerWithin_cons, List.cons_append, lowerWithin_congr rfl (hlone _),
        lowerWithin_congr (hlone _) rfl points, JsonText.mapRunsFrom, ih, map_char_lowercase]
      rfl

/-- The code points of a text in lower case. -/
theorem points_mapRuns_lowercase (t : JsonText) : (t.mapRuns lowercase).points = lowerWithin [] t.points [] := by
  cases t with
  | string s => rw [JsonText.mapRuns, JsonText.points_ofChars, map_char_lowercase, JsonText.points]
  | broken before first after =>
    exact (JsonText.points_ofPoints _).trans (mapRunsFrom_lowercase [] _)

/-! ## Sigmas that are settled -/

/-- Whether what stands further out decides the form of a capital sigma between two parts of a text, the first one with
its nearest code point first: nothing before the sigma is known to case rules, or nothing after it. -/
def LeavesOpen (before after : List CodePoint) : Prop :=
  before.all isPassedOver = true ∧ facesCased after = false ∨
    facesCased before = true ∧ after.all isPassedOver = true

/-- Whether the word itself settles the forms of all its capital sigmas. -/
def IsSettled (word : List CodePoint) : Prop :=
  ∀ front back, word = front ++ capitalSigma :: back → ¬LeavesOpen front.reverse back

instance (before after : List CodePoint) : Decidable (LeavesOpen before after) :=
  inferInstanceAs (Decidable (_ ∨ _))

theorem isSettled_iff_forall_lt {word : List CodePoint} :
    IsSettled word ↔ ∀ i < word.length, word[i]? = some capitalSigma →
      ¬LeavesOpen (word.take i).reverse (word.drop (i + 1)) := by
  constructor
  · intro h i _ hsigma
    obtain ⟨hi, hget⟩ := List.getElem?_eq_some_iff.1 hsigma
    refine h _ _ ?_
    rw [← hget, List.cons_getElem_drop_succ, List.take_append_drop]
  · rintro h front back rfl
    have hsplit := h front.length (by simp)
    simpa using hsplit

instance : DecidablePred IsSettled := fun _ => decidable_of_iff _ isSettled_iff_forall_lt.symm

/-- A word without a capital sigma is settled. -/
theorem isSettled_of_not_mem {word : List CodePoint} (h : capitalSigma ∉ word) : IsSettled word := by
  rintro front back rfl
  exact absurd (List.mem_append_right front List.mem_cons_self) h

theorem lowerPoint_of_not_leavesOpen {before after : List CodePoint} (h : ¬LeavesOpen before after)
    (outer further : List CodePoint) :
    lowerPoint (before ++ outer) capitalSigma (after ++ further) = lowerPoint before capitalSigma after := by
  rw [LeavesOpen, not_or, not_and, not_and, Bool.not_eq_false, Bool.not_eq_true] at h
  have hform : (facesCased (before ++ outer) && !facesCased (after ++ further)) =
      (facesCased before && !facesCased after) := by
    cases hbefore : before.all isPassedOver with
    | true =>
      have hafter : facesCased after = true := h.1 hbefore
      have hall : after.all isPassedOver = false :=
        Bool.eq_false_iff.2 fun hall => Bool.false_ne_true ((facesCased_eq_false_of_all hall).symm.trans hafter)
      rw [facesCased_append_of_not_all hall, hafter, Bool.not_true, Bool.and_false, Bool.and_false]
    | false =>
      rw [facesCased_append_of_not_all hbefore]
      cases hcased : facesCased before with
      | true => rw [facesCased_append_of_not_all (h.2 hcased)]
      | false => rfl
  rw [lowerPoint_capitalSigma, lowerPoint_capitalSigma, hform]

/-- A settled word has the same lower case wherever it stands. -/
theorem lowerWithin_of_isSettled {word : List CodePoint} (h : IsSettled word) (before after : List CodePoint) :
    lowerWithin before word after = lowerWithin [] word [] := by
  -- The invariant: what is left of the word is settled behind the part of it that has been passed.
  suffices hpart : ∀ passed points : List CodePoint, word = passed.reverse ++ points →
      lowerWithin (passed ++ before) points after = lowerWithin passed points [] from hpart [] word rfl
  intro passed points
  induction points generalizing passed with
  | nil => exact fun _ => rfl
  | cons p points ih =>
    intro hword
    have hpoint : lowerPoint (passed ++ before) p (points ++ after) = lowerPoint passed p points := by
      by_cases hp : p = capitalSigma
      · subst hp
        have hopen := h _ _ hword
        rw [List.reverse_reverse] at hopen
        exact lowerPoint_of_not_leavesOpen hopen before after
      · exact lowerPoint_of_ne hp ..
    have hrest := ih (p :: passed) (by rw [hword, List.reverse_cons, List.append_assoc, List.singleton_append])
    rw [lowerWithin_cons, lowerWithin_cons, hpoint, List.append_nil, ← List.cons_append, hrest]

theorem capitalSigma_not_mem_of_all {points : List CodePoint} (h : points.all isPassedOver = true) :
    capitalSigma ∉ points := by
  intro hmem
  have := List.all_eq_true.1 h _ hmem
  rw [isPassedOver_capitalSigma] at this
  contradiction

/-! ## Words in a text -/

/-- A row that has an item more often than another does not occur in it. -/
theorem not_infix_replaced {α : Type} [DecidableEq α] {x y : α} (hxy : y ≠ x) (front back : List α) {outer further : List α}
    (houter : x ∉ outer) (hfurther : x ∉ further) :
    ¬front ++ x :: back <:+: outer ++ (front ++ y :: back) ++ further := by
  intro h
  have hcount := h.sublist.count_le x
  simp only [List.count_append, List.count_cons_self, List.count_cons_of_ne hxy, List.count_eq_zero_of_not_mem houter,
    List.count_eq_zero_of_not_mem hfurther] at hcount
  omega

/-- The lower case of a word occurs in that of a text if the word stands where no cased character comes next. -/
theorem lowerWithin_infix_of_apart {word front back : List CodePoint} (hfront : facesCased front.reverse = false)
    (hback : facesCased back = false) : lowerWithin [] word [] <:+: lowerWithin [] (front ++ word ++ back) [] := by
  have hword : lowerWithin front.reverse word back = lowerWithin [] word [] := lowerWithin_congr hfront hback word
  rw [lowerWithin_around, hword]
  exact ⟨_, _, rfl⟩

/-- The lower case of a settled word occurs in that of every text that holds the word. -/
theorem lowerWithin_infix_of_isSettled {word points : List CodePoint} (h : IsSettled word) (hword : word <:+: points) :
    lowerWithin [] word [] <:+: lowerWithin [] points [] := by
  obtain ⟨front, back, rfl⟩ := hword
  rw [lowerWithin_around, lowerWithin_of_isSettled h front.reverse back]
  exact ⟨_, _, rfl⟩

/-- A capital sigma leaves a small one. -/
theorem exists_mem_lowerWithin {word : List CodePoint} (h : capitalSigma ∈ word) (before after : List CodePoint) :
    ∃ form, (form = '\u03C2' ∨ form = '\u03C3') ∧ .char form ∈ lowerWithin before word after := by
  obtain ⟨front, back, rfl⟩ := List.append_of_mem h
  rw [lowerWithin_capitalSigma, lowerPoint_capitalSigma]
  split
  · exact ⟨'\u03C2', .inl rfl, by simp⟩
  · exact ⟨'\u03C3', .inr rfl, by simp⟩

/-- A word is missing from the lower case of a text where one of its sigmas takes another form and all else stays. -/
theorem not_infix_of_other_form {front back outer further : List CodePoint} {x y : CodePoint} (hxy : y ≠ x)
    (hx : lowerPoint front.reverse capitalSigma back = [x])
    (hy : lowerPoint (front.reverse ++ outer.reverse) capitalSigma (back ++ further) = [y])
    (hfront : lowerWithin outer.reverse front [capitalSigma] = lowerWithin [] front [capitalSigma])
    (hback : lowerWithin [capitalSigma] back further = lowerWithin [capitalSigma] back [])
    (houter : ∀ after, x ∉ lowerWithin [] outer after) (hfurther : ∀ before, x ∉ lowerWithin before further []) :
    ¬lowerWithin [] (front ++ capitalSigma :: back) [] <:+:
      lowerWithin [] (outer ++ (front ++ capitalSigma :: back) ++ further) [] := by
  rw [lowerWithin_around, lowerWithin_capitalSigma, lowerWithin_capitalSigma, List.append_nil, List.append_nil, hx, hy,
    hfront, hback]
  exact not_infix_replaced hxy _ _ (houter _) (hfurther _)

theorem lowerPoint_a (before after : List CodePoint) : lowerPoint before (.char 'a') after = [.char 'a'] := by
  rw [lowerPoint, if_neg (by decide)]
  decide

theorem lowerWithin_a (before after : List CodePoint) : lowerWithin before [.char 'a'] after = [.char 'a'] := by
  rw [lowerWithin, lowerPoint_a, lowerWithin, List.append_nil]

/-- The lower case of a word that is not settled is missing from that of some text that holds the word. -/
theorem exists_infix_of_not_isSettled {word : List CodePoint} (h : ¬IsSettled word) :
    ∃ points, word <:+: points ∧ ¬lowerWithin [] word [] <:+: lowerWithin [] points [] := by
  obtain ⟨front, back, rfl, hopen⟩ :
      ∃ front back, word = front ++ capitalSigma :: back ∧ LeavesOpen front.reverse back := by
    simpa [IsSettled] using h
  have ha : facesCased [.char 'a'] = true := by decide
  rcases hopen with ⟨hfront, hback⟩ | ⟨hfront, hback⟩
  · -- A letter before the word makes its sigma final.
    refine ⟨[.char 'a'] ++ (front ++ capitalSigma :: back) ++ [], ⟨_, _, rfl⟩, ?_⟩
    have hnone : capitalSigma ∉ front := by simpa using capitalSigma_not_mem_of_all hfront
    have hcased : facesCased (front.reverse ++ [.char 'a']) = true := (facesCased_append_of_all hfront _).trans ha
    refine not_infix_of_other_form (x := .char '\u03C3') (y := .char '\u03C2') (by decide) ?_ ?_
      (lowerWithin_of_not_mem hnone ..) rfl (fun after => ?_) (fun _ => List.not_mem_nil)
    · exact lowerPoint_inner (.inl (facesCased_eq_false_of_all hfront))
    · rw [List.append_nil]
      exact lowerPoint_final hcased hback
    · rw [lowerWithin_a]
      decide
  · -- A letter behind the word keeps its sigma from being final.
    refine ⟨[] ++ (front ++ capitalSigma :: back) ++ [.char 'a'], ⟨_, _, rfl⟩, ?_⟩
    have hcased : facesCased (back ++ [.char 'a']) = true := (facesCased_append_of_all hback _).trans ha
    refine not_infix_of_other_form (x := .char '\u03C2') (y := .char '\u03C3') (by decide) ?_ ?_
      rfl (lowerWithin_of_not_mem (capitalSigma_not_mem_of_all hback) ..) (fun _ => List.not_mem_nil) (fun before => ?_)
    · exact lowerPoint_final hfront (facesCased_eq_false_of_all hback)
    · exact lowerPoint_inner (.inr hcased)
    · rw [lowerWithin_a]
      decide

end ODataBrowser.Text
