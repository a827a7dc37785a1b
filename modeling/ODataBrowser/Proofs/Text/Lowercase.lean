import Mathlib.Data.List.Infix
import ODataBrowser.Proofs.Text.Sigma
import ODataBrowser.Text.Search

/-!
# Words in lower case

A word whose characters are their own lower case occurs in the lower-case form of a text wherever it occurs in the
text (`occurs_lowercase`). The converse fails: the word may come about in lower case only.

The lower-case form of a text is an ASCII word without the letter k just if its characters are those of the word in
either case (`lowercase_eq_iff`). The letter k has a third form: it is the lower case of the sign for kelvin, too.
-/

namespace ODataBrowser.Text

/-! ## Occurrences -/

theorem occurs_iff {α : Type} [BEq α] [LawfulBEq α] {word cs : List α} :
    occurs word cs = true ↔ word <:+: cs := by
  induction cs with
  | nil => simp [occurs]
  | cons c cs ih => simp [occurs, List.infix_cons_iff, ih]

/-! ## Lower case -/

/-- Whether the lower case of a character is the character itself, whatever stands around it. -/
def isOwnLowercase (c : Char) : Bool :=
  c != '\u03A3' && c != '\u0130' && shiftBy lowerRuns c == c

theorem ne_sigma_of_isOwnLowercase {c : Char} (h : isOwnLowercase c = true) : c ≠ '\u03A3' := by
  rintro rfl
  exact absurd h (by decide)

theorem lowerFrom_of_own {word : List Char} (h : word.all isOwnLowercase = true) (before : List Char) :
    lowerFrom before word = word := by
  induction word generalizing before with
  | nil => rfl
  | cons c word ih =>
    rw [List.all_cons, Bool.and_eq_true] at h
    obtain ⟨hc, hrest⟩ := h
    simp only [isOwnLowercase, Bool.and_eq_true, bne_iff_ne, beq_iff_eq] at hc
    obtain ⟨⟨hsigma, hdotted⟩, hshift⟩ := hc
    rw [lowerFrom, lowerChar, if_neg hsigma, if_neg hdotted, hshift, ih hrest, List.singleton_append]

/-- A word in lower case that occurs in a text occurs in its lower-case form too. -/
theorem occurs_lowercase {word cs : List Char} (hown : word.all isOwnLowercase = true)
    (h : occurs word cs = true) : occurs word (lowercase cs) = true := by
  rw [occurs_iff] at h ⊢
  have hsettled : IsSettled (word.map .char) := by
    refine isSettled_of_not_mem fun hsigma => ?_
    obtain ⟨c, hc, heq⟩ := List.mem_map.1 hsigma
    exact ne_sigma_of_isOwnLowercase (List.all_eq_true.1 hown c hc) (CodePoint.char.inj heq)
  have hlower := lowerWithin_infix_of_isSettled hsettled (h.map CodePoint.char)
  rw [← map_char_lowercase, ← map_char_lowercase, lowercase, lowerFrom_of_own hown] at hlower
  obtain ⟨part, hpart, heq⟩ := List.infix_map_iff.1 hlower
  rwa [List.map_injective_iff.2 (fun _ _ => CodePoint.char.inj) heq]

/-! ## ASCII words -/

/-- Whether a character is ASCII and the lower case of ASCII characters only. Zero is left out, since it stands for
the code points that are no characters. -/
def isPlain (c : Char) : Bool :=
  c != '\x00' && c.toNat < 128 && c != 'k'

/-- What holds of the characters of the first 128 numbers holds of every ASCII character. -/
theorem of_ascii {P : Char → Prop} (hall : ∀ n < 128, P (Char.ofNat n)) {c : Char} (h : c.toNat < 128) : P c := by
  have hc := hall c.toNat h
  rwa [Char.ofNat_toNat] at hc

theorem shiftBy_of_ascii {c : Char} (h : c.toNat < 128) : shiftBy lowerRuns c = c.toLower :=
  of_ascii (P := fun c => shiftBy lowerRuns c = c.toLower) (by decide +kernel) h

theorem lowerChar_of_ascii {c : Char} (h : c.toNat < 128) (before after : List Char) :
    lowerChar before c after = [c.toLower] := by
  have hsigma : c ≠ '\u03A3' := by
    rintro rfl
    exact absurd h (by decide)
  have hdotted : c ≠ '\u0130' := by
    rintro rfl
    exact absurd h (by decide)
  rw [lowerChar, if_neg hsigma, if_neg hdotted, shiftBy_of_ascii h]

theorem isPlain_of_le {c : Char} (h : 128 ≤ c.toNat) : isPlain c = false := by
  simp [isPlain, Nat.not_lt_of_le h]

theorem isPlain_ofNat_of_le {n : Nat} (h : 128 ≤ n) : isPlain (Char.ofNat n) = false := by
  by_cases hvalid : n.isValidChar
  · refine isPlain_of_le ?_
    rwa [Char.ofNat, dif_pos hvalid]
  · rw [Char.ofNat, dif_neg hvalid]
    rfl

/-- No run leads from beyond ASCII to a plain character. -/
theorem isPlain_shiftBy_of_le {c : Char} (h : 128 ≤ c.toNat) : isPlain (shiftBy lowerRuns c) = false := by
  have hruns : ∀ r ∈ lowerRuns, r.last < 128 ∨ 128 ≤ r.first + r.shift ∨
      r.first = r.last ∧ (r.first + r.shift).toNat = 'k'.toNat := by decide +kernel
  unfold shiftBy
  split
  case h_1 r hfind =>
    have hcovers := List.find?_some hfind
    simp only [CaseRun.covers, Bool.and_eq_true, decide_eq_true_eq] at hcovers
    rcases hruns r (List.mem_of_find?_eq_some hfind) with hlast | hfirst | ⟨hone, hk⟩
    · omega
    · exact isPlain_ofNat_of_le (by omega)
    · rw [show c.toNat = r.first by omega, hk]
      rfl
  case h_2 => exact isPlain_of_le h

/-- A character beyond ASCII leaves one in the lower-case form that is not plain. -/
theorem exists_mem_lowerChar {c : Char} (h : 128 ≤ c.toNat) (before after : List Char) :
    ∃ x ∈ lowerChar before c after, isPlain x = false := by
  unfold lowerChar
  split_ifs
  · exact ⟨_, List.mem_singleton_self _, rfl⟩
  · exact ⟨_, List.mem_singleton_self _, rfl⟩
  · exact ⟨'\u0307', by simp, rfl⟩
  · exact ⟨_, List.mem_singleton_self _, isPlain_shiftBy_of_le h⟩

theorem toLower_of_le {c : Char} (h : 128 ≤ c.toNat) : c.toLower = c := by
  refine dif_neg fun ⟨_, hle⟩ => ?_
  have : c.toNat ≤ 90 := UInt32.le_iff_toNat_le.1 hle
  omega

theorem lowerFrom_eq_iff {word : List Char} (h : ∀ c ∈ word, isPlain c = true) (before cs : List Char) :
    lowerFrom before cs = word ↔ cs.map Char.toLower = word := by
  induction cs generalizing before word with
  | nil => rfl
  | cons c cs ih =>
    rw [lowerFrom, List.map_cons]
    by_cases hc : c.toNat < 128
    · rw [lowerChar_of_ascii hc, List.singleton_append]
      cases word with
      | nil => simp
      | cons d word =>
        rw [List.forall_mem_cons] at h
        rw [List.cons.injEq, List.cons.injEq, ih h.2]
    · -- Neither form of the text is plain.
      have hle : 128 ≤ c.toNat := Nat.le_of_not_lt hc
      constructor
      · rintro rfl
        obtain ⟨x, hmem, hx⟩ := exists_mem_lowerChar hle before cs
        exact absurd (h x (List.mem_append_left _ hmem)) (by simp [hx])
      · rintro rfl
        have hplain := h c.toLower List.mem_cons_self
        rw [toLower_of_le hle, isPlain_of_le hle] at hplain
        contradiction

/-- **The texts whose lower-case form is a plain word** are those with its characters in either case. -/
theorem lowercase_eq_iff {word : List Char} (h : ∀ c ∈ word, isPlain c = true) (cs : List Char) :
    lowercase cs = word ↔ cs.map Char.toLower = word :=
  lowerFrom_eq_iff h [] cs

end ODataBrowser.Text
