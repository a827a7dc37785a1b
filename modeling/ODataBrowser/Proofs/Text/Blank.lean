import Mathlib.Data.List.DropRight
import Mathlib.Data.List.TakeWhile
import ODataBrowser.Text.Blank

/-!
# The white space around a text

A text is what stands between white space at its front and its end (`Text.exists_eq_append_strip`), and what begins and
ends with other characters is found there again (`Text.strip_append`). A text is trimmed just if it does so
(`Text.strip_eq_self_of_ends`, `Text.endsIn_strip`).
-/

namespace ODataBrowser.Text

theorem dropWhile_of_forall_not {p : Char → Bool} {cs : List Char} (h : ∀ c ∈ cs, p c = false) :
    cs.dropWhile p = cs :=
  List.dropWhile_eq_self_iff.2 fun hl => by simp [h _ (List.getElem_mem hl)]

theorem dropWhile_append_cons {p : Char → Bool} {front : List Char} (hfront : ∀ c ∈ front, p c = true) {c : Char}
    (hc : p c = false) (rest : List Char) : (front ++ c :: rest).dropWhile p = c :: rest := by
  rw [List.dropWhile_append_of_pos hfront, List.dropWhile_cons_of_neg (by simp [hc])]

theorem dropEndWhile_of_forall_not {p : Char → Bool} {cs : List Char} (h : ∀ c ∈ cs, p c = false) :
    dropEndWhile p cs = cs := by
  rw [dropEndWhile, dropWhile_of_forall_not (by simpa using h), List.reverse_reverse]

/-- What is dropped stands behind every item that does not satisfy `p`. -/
theorem dropEndWhile_append_cons {α : Type} {p : α → Bool} {c : α} (hc : p c = false) (front back : List α) :
    dropEndWhile p (front ++ c :: back) = front ++ c :: dropEndWhile p back := by
  rw [dropEndWhile, List.reverse_append, List.reverse_cons, List.append_assoc, List.singleton_append,
    List.dropWhile_append, List.dropWhile_cons_of_neg (by simp [hc]), dropEndWhile]
  split
  case isTrue hempty => simp [List.isEmpty_iff.1 hempty]
  case isFalse => simp

theorem exists_eq_dropEndWhile_append (p : Char → Bool) (cs : List Char) :
    ∃ back, cs = dropEndWhile p cs ++ back ∧ ∀ c ∈ back, p c = true := by
  refine ⟨(cs.reverse.takeWhile p).reverse, ?_, ?_⟩
  · rw [dropEndWhile, ← List.reverse_append, List.takeWhile_append_dropWhile, List.reverse_reverse]
  · exact fun c hc => List.mem_takeWhile_imp (List.mem_reverse.1 hc)

theorem strip_of_forall_not {cs : List Char} (h : ∀ c ∈ cs, isBlank c = false) : strip cs = cs := by
  rw [strip, stripStart, dropWhile_of_forall_not h, dropEndWhile_of_forall_not h]

/-- White space at the end is removed. -/
theorem strip_append_of_forall_not {cs after : List Char} (h : ∀ c ∈ cs, isBlank c = false)
    (hafter : ∀ c ∈ after, isBlank c = true) : strip (cs ++ after) = cs := by
  cases cs with
  | nil =>
    rw [List.nil_append, strip, stripStart, List.dropWhile_eq_nil_iff.2 hafter]
    rfl
  | cons c cs =>
    have hc := h c List.mem_cons_self
    rw [strip, stripStart, List.cons_append, List.dropWhile_cons_of_neg (by simp [hc]), ← List.cons_append,
      dropEndWhile, List.reverse_append, List.dropWhile_append_of_pos (by simpa using hafter), ← dropEndWhile,
      dropEndWhile_of_forall_not h]

/-- White space around a word is removed. -/
theorem strip_append_append {before word after : List Char} (hbefore : ∀ c ∈ before, isBlank c = true)
    (hword : ∀ c ∈ word, isBlank c = false) (hafter : ∀ c ∈ after, isBlank c = true) :
    strip (before ++ (word ++ after)) = word := by
  rw [strip, stripStart, List.dropWhile_append_of_pos hbefore]
  exact strip_append_of_forall_not hword hafter

theorem strip_cons_ne_nil {c : Char} (h : isBlank c = false) (cs : List Char) : strip (c :: cs) ≠ [] := by
  intro hnil
  have hstart : stripStart (c :: cs) = c :: cs := List.dropWhile_cons_of_neg (by simp [h])
  rw [strip, hstart, dropEndWhile, List.reverse_eq_nil_iff, List.dropWhile_eq_nil_iff] at hnil
  exact absurd (hnil c (by simp)) (by simp [h])

/-- White space stands before the first and behind the last of other characters. -/
theorem strip_append_cons {before : List Char} (hbefore : ∀ c ∈ before, isBlank c = true) {first last : Char}
    (hfirst : isBlank first = false) (hlast : isBlank last = false) (cs after : List Char) :
    strip (before ++ first :: (cs ++ last :: after)) = first :: (cs ++ last :: dropEndWhile isBlank after) := by
  rw [strip, stripStart, dropWhile_append_cons hbefore hfirst, ← List.cons_append, dropEndWhile_append_cons hlast,
    List.cons_append]

/-- White space around a text that begins and ends with other characters is removed. -/
theorem strip_append {before after : List Char} (hbefore : ∀ c ∈ before, isBlank c = true)
    (hafter : ∀ c ∈ after, isBlank c = true) {first last : Char} (hfirst : isBlank first = false)
    (hlast : isBlank last = false) (cs : List Char) :
    strip (before ++ first :: (cs ++ last :: after)) = first :: (cs ++ [last]) := by
  rw [strip_append_cons hbefore hfirst hlast, dropEndWhile, List.dropWhile_eq_nil_iff.2 (by simpa using hafter)]
  rfl

theorem strip_of_ends {first last : Char} (hfirst : isBlank first = false) (hlast : isBlank last = false)
    (cs : List Char) : strip (first :: (cs ++ [last])) = first :: (cs ++ [last]) :=
  strip_append (List.forall_mem_nil _) (List.forall_mem_nil _) hfirst hlast cs

/-- A text has white space around what is left when it is removed. -/
theorem exists_eq_append_strip (cs : List Char) :
    ∃ before after, cs = before ++ (strip cs ++ after) ∧ (∀ c ∈ before, isBlank c = true) ∧
      ∀ c ∈ after, isBlank c = true := by
  obtain ⟨after, hsplit, hafter⟩ := exists_eq_dropEndWhile_append isBlank (stripStart cs)
  refine ⟨cs.takeWhile isBlank, after, ?_, fun c hc => List.mem_takeWhile_imp hc, hafter⟩
  rw [strip, ← hsplit, stripStart, List.takeWhile_append_dropWhile]

/-! ## The end of a text -/

/-- Whether the text ends in a character that satisfies `p`. -/
def endsIn (p : Char → Bool) (cs : List Char) : Bool :=
  cs.getLast?.any p

section

variable {p : Char → Bool} {cs : List Char}

theorem endsIn_append_singleton (front : List Char) (c : Char) : endsIn p (front ++ [c]) = p c := by
  simp [endsIn]

theorem exists_of_endsIn (h : endsIn p cs = true) : ∃ front c, cs = front ++ [c] ∧ p c = true := by
  cases cs using List.reverseRecOn with
  | nil => contradiction
  | append_singleton front c => exact ⟨front, c, rfl, by rwa [endsIn_append_singleton] at h⟩

theorem dropEndWhile_eq_self_iff : dropEndWhile p cs = cs ↔ endsIn p cs = false := by
  change cs.rdropWhile p = cs ↔ _
  rw [List.rdropWhile_eq_self_iff]
  cases cs using List.reverseRecOn with
  | nil => simp [endsIn]
  | append_singleton front c => simp [endsIn]

theorem endsIn_dropEndWhile (p : Char → Bool) (cs : List Char) : endsIn p (dropEndWhile p cs) = false :=
  dropEndWhile_eq_self_iff.1 (List.rdropWhile_idempotent p cs)

end

/-! ## Trimmed texts -/

theorem strip_eq_self_of_ends {cs : List Char} (hfirst : ∀ c ∈ cs.head?, isBlank c = false)
    (hlast : endsIn isBlank cs = false) : strip cs = cs := by
  have hstart : stripStart cs = cs := by
    cases cs with
    | nil => rfl
    | cons c cs => exact List.dropWhile_cons_of_neg (by simp [hfirst c rfl])
  rw [strip, hstart, dropEndWhile_eq_self_iff.2 hlast]

theorem mem_head?_of_dropEndWhile {p : Char → Bool} {cs : List Char} {c : Char}
    (h : c ∈ (dropEndWhile p cs).head?) : c ∈ cs.head? := by
  obtain ⟨back, hsplit, -⟩ := exists_eq_dropEndWhile_append p cs
  rw [hsplit, List.head?_append, Option.mem_def.1 h]
  rfl

theorem isBlank_of_mem_head?_strip {cs : List Char} {c : Char} (h : c ∈ (strip cs).head?) : isBlank c = false := by
  have hfirst := List.head?_dropWhile_not isBlank cs
  rw [show (cs.dropWhile isBlank).head? = some c from mem_head?_of_dropEndWhile h] at hfirst
  exact hfirst

theorem endsIn_strip (cs : List Char) : endsIn isBlank (strip cs) = false :=
  endsIn_dropEndWhile _ _

/-- A trimmed text is no longer than the text. -/
theorem length_strip_le (cs : List Char) : (strip cs).length ≤ cs.length := by
  obtain ⟨before, after, hsplit, -⟩ := exists_eq_append_strip cs
  have hlength := congrArg List.length hsplit
  rw [List.length_append, List.length_append] at hlength
  omega

end ODataBrowser.Text
