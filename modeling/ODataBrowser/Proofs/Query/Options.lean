import ODataBrowser.Counting
import ODataBrowser.Proofs.Query.Component
import ODataBrowser.Proofs.Query.Number
import ODataBrowser.Proofs.Query.Url

/-!
# The options of a URL

A service splits what stands behind the address of a resource at each `&`, and each part at its first `=`. From the
URL of a query it gets back the options of the query with their values (`PageQuery.optionsIn_toUrl`).
-/

namespace ODataBrowser.Query

open Text

/-! ## Splitting -/

theorem splitAtEach_of_not_mem {separator : Char} {part : List Char} (h : separator ∉ part) :
    splitAtEach separator part = [part] := by
  induction part with
  | nil => rfl
  | cons c part ih =>
    rw [List.mem_cons, not_or] at h
    rw [splitAtEach, ih h.2]
    exact if_neg (Ne.symm h.1)

theorem splitAtEach_ne_nil (separator : Char) (cs : List Char) : splitAtEach separator cs ≠ [] := by
  cases cs with
  | nil => simp [splitAtEach]
  | cons c cs =>
    unfold splitAtEach
    split
    · simp
    · split <;> simp

theorem splitAtEach_append_cons {separator : Char} {part : List Char} (h : separator ∉ part)
    (rest : List Char) :
    splitAtEach separator (part ++ separator :: rest) = part :: splitAtEach separator rest := by
  induction part with
  | nil =>
    obtain ⟨next, parts, hrest⟩ := List.exists_cons_of_ne_nil (splitAtEach_ne_nil separator rest)
    rw [List.nil_append, splitAtEach, hrest]
    exact if_pos rfl
  | cons c part ih =>
    rw [List.mem_cons, not_or] at h
    rw [List.cons_append, splitAtEach, ih h.2]
    exact if_neg (Ne.symm h.1)

/-- Joined parts are split again, if none of them contains the separator. -/
theorem splitAtEach_joinWith {separator : Char} {parts : List (List Char)} (hne : parts ≠ [])
    (h : ∀ part ∈ parts, separator ∉ part) :
    splitAtEach separator (joinWith [separator] parts) = parts := by
  induction parts with
  | nil => contradiction
  | cons part rest ih =>
    rw [List.forall_mem_cons] at h
    cases rest with
    | nil => exact splitAtEach_of_not_mem h.1
    | cons next rest =>
      rw [joinWith, List.append_assoc, List.singleton_append, splitAtEach_append_cons h.1,
        ih (by simp) h.2]
      simp

/-! ## Options with their values -/

/-- An option as it is written. -/
def optionText (option : List Char × List Char) : List Char :=
  option.1 ++ '=' :: option.2

/-- The option that a part of a URL is: its name up to the first `=`, and its value behind it. -/
def readOption (part : List Char) : List Char × List Char :=
  (part.takeWhile (· != '='), (part.dropWhile (· != '=')).drop 1)

theorem readOption_optionText {option : List Char × List Char} (h : '=' ∉ option.1) :
    readOption (optionText option) = option := by
  have hname : ∀ c ∈ option.1, (c != '=') = true := fun c hc => by
    simpa using fun heq : c = '=' => h (heq ▸ hc)
  unfold readOption optionText
  rw [List.takeWhile_append_of_pos hname, List.dropWhile_append_of_pos hname]
  simp

/-- The options in a URL behind the address of a resource. -/
def optionsIn (address url : JsonText) : List (List Char × List Char) :=
  (splitAtEach '&' (url.shown.drop (address.shown.length + 1))).map readOption

/-- A numeric option with its value, where it is positive. -/
def numericPair (name : String) : Option Int → List (List Char × List Char)
  | some n => if 0 < n then [(name.toList, Numeral.ofInt n)] else []
  | none => []

/-- A text option with its value, where it is not empty. -/
def textPair (name : String) : Option JsonText → List (List Char × List Char)
  | some t => if t.isEmpty then [] else [(name.toList, encodeComponent t.shown)]
  | none => []

theorem numericOption_eq_map {name : String} {n? : Option Int} {options : List (List Char)}
    (h : numericOption name n? = .ok options) : options = (numericPair name n?).map optionText := by
  cases n? with
  | none => exact (Except.ok.inj h).symm
  | some n =>
    dsimp only [numericOption] at h
    by_cases hpos : 0 < n
    · rw [if_pos hpos] at h
      unfold numberText at h
      split at h
      · contradiction
      · rw [← Except.ok.inj h, numericPair, if_pos hpos]
        rfl
    · rw [if_neg hpos] at h
      rw [← Except.ok.inj h, numericPair, if_neg hpos]
      rfl

theorem textOption_eq_map {name : String} {t? : Option JsonText} {options : List (List Char)}
    (h : textOption name t? = .ok options) : options = (textPair name t?).map optionText := by
  match t? with
  | none => exact (Except.ok.inj h).symm
  | some (.string s) =>
    rw [← Except.ok.inj h, textPair]
    change _ = (if s.isEmpty = true then [] else [(name.toList, encodeComponent s.toList)]).map optionText
    split <;> rfl
  | some (.broken ..) => contradiction

/-! ### Separators -/

theorem not_mem_encodeComponent (cs : List Char) : '&' ∉ encodeComponent cs := by
  intro hmem
  rcases isComponentChar_of_mem hmem with h | h
  · exact absurd h (by decide)
  · exact absurd h (by decide)

theorem not_mem_ofInt (n : Int) : '&' ∉ Numeral.ofInt n := fun hmem =>
  absurd (isTokenChar_of_isNumber (isNumber_ofInt n) _ hmem) (by decide)

theorem not_mem_parameter? (strategy : CountStrategy) :
    ∀ pair ∈ strategy.parameter?, '=' ∉ pair.1.toList ∧ '&' ∉ pair.1.toList ∧ '&' ∉ pair.2.toList := by
  cases strategy <;> decide

namespace PageQuery

/-- The options of a query with their values. -/
def pairs (q : PageQuery) : List (List Char × List Char) :=
  ("$format".toList, "json".toList) :: (numericPair "$top" q.top ++ numericPair "$skip" q.skip ++
    textPair "$orderby" q.orderBy ++ textPair "$filter" q.filter ++
    (q.count.map fun (name, value) => (name.toList, value.toList)).toList)

theorem options_eq_map_optionText {q : PageQuery} {options : List (List Char)} (h : q.options = .ok options) :
    options = q.pairs.map optionText := by
  obtain ⟨top, skip, orderBy, filter, htop, hskip, horder, hfilter, rfl⟩ := options_eq_ok h
  rw [numericOption_eq_map htop, numericOption_eq_map hskip, textOption_eq_map horder, textOption_eq_map hfilter,
    countPart, pairs]
  cases q.count <;> simp [optionText]

variable {q : PageQuery}

/-- What holds of the format, of each positive number, of each component and of the counting option holds of all
options of a query. -/
theorem forall_mem_pairs {P : List Char × List Char → Prop} (hformat : P ("$format".toList, "json".toList))
    (hnumeric : ∀ name ∈ ["$top", "$skip"], ∀ n, 0 < n → P (name.toList, Numeral.ofInt n))
    (htext : ∀ name ∈ ["$orderby", "$filter"], ∀ cs, P (name.toList, encodeComponent cs))
    (hcount : ∀ pair ∈ q.count, P (pair.1.toList, pair.2.toList)) {pair : List Char × List Char}
    (h : pair ∈ q.pairs) : P pair := by
  have hnumericPair {name : String} (hname : name ∈ ["$top", "$skip"]) {n? : Option Int}
      (h : pair ∈ numericPair name n?) : P pair := by
    unfold numericPair at h
    split at h
    · split at h
      · rw [List.mem_singleton.1 h]
        exact hnumeric name hname _ ‹_›
      · exact absurd h List.not_mem_nil
    · exact absurd h List.not_mem_nil
  have htextPair {name : String} (hname : name ∈ ["$orderby", "$filter"]) {t? : Option JsonText}
      (h : pair ∈ textPair name t?) : P pair := by
    unfold textPair at h
    split at h
    · split at h
      · exact absurd h List.not_mem_nil
      · rw [List.mem_singleton.1 h]
        exact htext name hname _
    · exact absurd h List.not_mem_nil
  simp only [pairs, List.mem_cons, List.mem_append] at h
  rcases h with rfl | (((h | h) | h) | h) | h
  · exact hformat
  · exact hnumericPair (by simp) h
  · exact hnumericPair (by simp) h
  · exact htextPair (by simp) h
  · exact htextPair (by simp) h
  · cases hq : q.count with
    | none => simp [hq] at h
    | some count =>
      simp only [hq, Option.map_some, Option.toList_some, List.mem_singleton] at h
      rw [h]
      exact hcount count hq

/-- The options of a query have no separators in them, if its counting option has none. -/
theorem not_mem_of_mem_pairs
    (hcount : ∀ pair ∈ q.count, '=' ∉ pair.1.toList ∧ '&' ∉ pair.1.toList ∧ '&' ∉ pair.2.toList)
    {pair : List Char × List Char} (h : pair ∈ q.pairs) :
    '=' ∉ pair.1 ∧ '&' ∉ pair.1 ∧ '&' ∉ pair.2 := by
  have hnames : ∀ name ∈ ["$top", "$skip"] ++ ["$orderby", "$filter"], '=' ∉ name.toList ∧ '&' ∉ name.toList := by
    decide
  refine forall_mem_pairs (P := fun pair => '=' ∉ pair.1 ∧ '&' ∉ pair.1 ∧ '&' ∉ pair.2) (by decide)
    (fun name hname n _ => ?_) (fun name hname cs => ?_) hcount h
  · obtain ⟨hequals, hsplit⟩ := hnames name (List.mem_append_left _ hname)
    exact ⟨hequals, hsplit, not_mem_ofInt n⟩
  · obtain ⟨hequals, hsplit⟩ := hnames name (List.mem_append_right _ hname)
    exact ⟨hequals, hsplit, not_mem_encodeComponent cs⟩

/-- What a query adds to the address of a resource, behind the mark. -/
def text (q : PageQuery) : List Char :=
  joinWith ['&'] (q.pairs.map optionText)

/-- The URL of a query is the address with a mark and the text of the query behind it. -/
theorem eq_append_of_toUrl {address url : JsonText} (h : q.toUrl address = .ok url) :
    url = address ++ .ofChars ((if address.shown.contains '?' then '&' else '?') :: q.text) := by
  obtain ⟨options, hoptions, rfl⟩ := Fault.exists_of_map_eq_ok h
  rw [text, ← options_eq_map_optionText hoptions]
  rfl

theorem shown_of_toUrl {address url : JsonText} (h : q.toUrl address = .ok url) :
    url.shown = address.shown ++ (if address.shown.contains '?' then '&' else '?') :: q.text := by
  rw [eq_append_of_toUrl h, JsonText.shown_append, JsonText.shown_ofChars]

/-- The options are read back from the text of a query. -/
theorem map_readOption_text
    (hcount : ∀ pair ∈ q.count, '=' ∉ pair.1.toList ∧ '&' ∉ pair.1.toList ∧ '&' ∉ pair.2.toList) :
    (splitAtEach '&' q.text).map readOption = q.pairs := by
  have hparts : ∀ part ∈ q.pairs.map optionText, '&' ∉ part := by
    intro part hpart
    obtain ⟨pair, hpair, rfl⟩ := List.mem_map.1 hpart
    obtain ⟨-, hname, hvalue⟩ := not_mem_of_mem_pairs hcount hpair
    simp [optionText, hname, hvalue]
  rw [text, splitAtEach_joinWith (by simp [pairs]) hparts, List.map_map]
  refine (List.map_congr_left fun pair hpair => ?_).trans q.pairs.map_id
  exact readOption_optionText (not_mem_of_mem_pairs hcount hpair).1

/-- **The URL of a query is read back.** -/
theorem optionsIn_toUrl
    (hcount : ∀ pair ∈ q.count, '=' ∉ pair.1.toList ∧ '&' ∉ pair.1.toList ∧ '&' ∉ pair.2.toList)
    {address url : JsonText} (h : q.toUrl address = .ok url) : optionsIn address url = q.pairs := by
  rw [optionsIn, shown_of_toUrl h, ← List.drop_drop, List.drop_left]
  exact map_readOption_text hcount

/-! ## Plain queries -/

/-- A query for a page by its size and offset, which asks for the total by the given strategy. -/
def plain (top skip : Int) (asked : CountStrategy) : PageQuery where
  top := some top
  skip := some skip
  count := asked.parameter?

theorem optionsIn_plain {top skip : Int} {asked : CountStrategy} {address url : JsonText}
    (h : (plain top skip asked).toUrl address = .ok url) : optionsIn address url = (plain top skip asked).pairs :=
  optionsIn_toUrl (not_mem_parameter? asked) h

theorem lookup_top_plain {top : Int} (h : 0 < top) (skip : Int) (asked : CountStrategy) :
    (plain top skip asked).pairs.lookup "$top".toList = some (Numeral.ofInt top) := by
  simp only [plain, pairs, numericPair, if_pos h]
  rfl

theorem lookup_skip_plain {top skip : Int} (asked : CountStrategy) :
    (plain top skip asked).pairs.lookup "$skip".toList =
      if 0 < skip then some (Numeral.ofInt skip) else none := by
  simp only [plain, pairs, numericPair]
  split <;> split <;> cases asked <;> rfl

/-- A plain query has the counting option of the strategy it asks by, and no other. -/
theorem lookup_count_plain {top skip : Int} {asked strategy : CountStrategy} {option value : String}
    (h : strategy.parameter? = some (option, value)) :
    (plain top skip asked).pairs.lookup option.toList =
      if asked = strategy then some value.toList else none := by
  simp only [plain, pairs, numericPair]
  split <;> split <;> cases asked <;> cases strategy <;> cases h <;> rfl

end PageQuery

end ODataBrowser.Query
