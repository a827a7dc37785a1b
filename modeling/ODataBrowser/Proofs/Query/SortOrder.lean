import ODataBrowser.Proofs.Query.Compilation
import ODataBrowser.Proofs.Query.Options
import ODataBrowser.Proofs.Text.Blank
import ODataBrowser.Proofs.Text.Lowercase
import ODataBrowser.Query.Table

/-!
# Sort orders read back

A service splits a sort order at each comma, and each part at its space. From a compiled sort order it gets back the
fields with their directions, in their order: nothing in a field can add a column or turn one around (`SaysColumns`).
The columns of a table are those of its metadata, where the negative numbers and three words mean descending
(`IsDescending`). Both together are `sortOrder_spec`.
-/

namespace ODataBrowser

theorem Value.shown_asText (v : Value) : v.asText.shown = v.display := by
  cases v with
  | scalar s =>
    cases s with
    | textual t => rfl
    | _ => exact JsonText.shown_ofChars _
  | _ => exact JsonText.shown_ofChars _

namespace Query

open Text

/-! ## Directions -/

/-- The words for descending. -/
def descendingWords : List String := ["desc", "descending", "-1"]

/-- Whether a text is a word for descending, in any case and with white space around it. -/
def IsDescendingWord (s : String) : Prop :=
  ∃ before word after, s.toList = before ++ (word ++ after) ∧ (∀ c ∈ before, isBlank c = true) ∧
    (∀ c ∈ after, isBlank c = true) ∧ String.ofList (word.map Char.toLower) ∈ descendingWords

/-- Whether a value means descending: an integer or a double below zero, or a word for it. -/
def IsDescending : Value → Prop
  | .int n => n < 0
  | .float x => x = .infinite true ∨ ∃ m e, x = .finite true m e ∧ m ≠ 0
  | .text s => IsDescendingWord s
  | _ => False

theorem isBlank_toLower (c : Char) : isBlank c.toLower = isBlank c := by
  rcases Nat.lt_or_ge c.toNat 128 with h | h
  · exact of_ascii (P := fun c => isBlank c.toLower = isBlank c) (by decide) h
  · rw [toLower_of_le h]

theorem descendingWords_spec :
    ∀ word ∈ descendingWords, ∀ c ∈ word.toList, isPlain c = true ∧ isBlank c = false := by
  have hall : (descendingWords.all fun word => word.toList.all fun c => isPlain c && !isBlank c) = true := by
    decide
  simpa only [List.all_eq_true, Bool.and_eq_true, Bool.not_eq_true'] using hall

/-- A word for descending has no white space in it. -/
theorem isBlank_of_mem {word : List Char} (h : String.ofList (word.map Char.toLower) ∈ descendingWords) :
    ∀ c ∈ word, isBlank c = false := by
  intro c hc
  have hmem : c.toLower ∈ (String.ofList (word.map Char.toLower)).toList := by
    rw [String.toList_ofList]
    exact List.mem_map_of_mem hc
  rw [← isBlank_toLower]
  exact (descendingWords_spec _ h _ hmem).2

/-- The lower-case form of a text is a word for descending just if the text is one in any case. -/
theorem lowercase_mem_descendingWords (cs : List Char) :
    String.ofList (lowercase cs) ∈ descendingWords ↔ String.ofList (cs.map Char.toLower) ∈ descendingWords := by
  have hlower {word : String} (hword : word ∈ descendingWords) :
      lowercase cs = word.toList ↔ cs.map Char.toLower = word.toList :=
    lowercase_eq_iff (fun c hc => (descendingWords_spec word hword c hc).1) cs
  constructor
  · intro h
    rwa [(hlower h).1 String.toList_ofList.symm, String.ofList_toList]
  · intro h
    rwa [(hlower h).2 String.toList_ofList.symm, String.ofList_toList]

theorem isDescendingWord_iff (s : String) :
    IsDescendingWord s ↔ String.ofList (lowercase (strip s.toList)) ∈ descendingWords := by
  rw [lowercase_mem_descendingWords]
  constructor
  · rintro ⟨before, word, after, hs, hbefore, hafter, hword⟩
    rwa [hs, strip_append_append hbefore (isBlank_of_mem hword) hafter]
  · intro hword
    obtain ⟨before, after, hs, hbefore, hafter⟩ := exists_eq_append_strip s.toList
    exact ⟨before, strip s.toList, after, hs, hbefore, hafter, hword⟩

/-- **Which directions are descending.** -/
theorem parse_eq_desc_iff (v : Value) : SortDirection.parse v = .desc ↔ IsDescending v := by
  have hif (p : Prop) [Decidable p] : (if p then SortDirection.desc else .asc) = .desc ↔ p := by
    split <;> simp_all
  unfold SortDirection.parse IsDescending
  split
  case h_1 n => exact hif _
  case h_2 x =>
    rw [hif]
    cases x <;> simp [Binary64.isBelowZero]
  case h_3 s => exact (hif _).trans (isDescendingWord_iff s).symm
  case h_4 => simp

/-! ## Compiled sort orders -/

/-- The columns that a sort order names: its parts between the commas, each split at its spaces. -/
def columnsIn (text : String) : List (List (List Char)) :=
  (splitAtEach ',' text.toList).map (splitAtEach ' ')

namespace SortColumn

/-- Whether a column has a field name. -/
def isNamed (s : SortColumn) : Bool :=
  !(sanitizeField s.field).isEmpty

/-- The field name and the direction of a column. -/
def parts (s : SortColumn) : List (List Char) :=
  [sanitizeField s.field, s.direction.name.toList]

/-- What a sort order has of a column. -/
def fragment (s : SortColumn) : List Char :=
  sanitizeField s.field ++ ' ' :: s.direction.name.toList

theorem fragment?_eq (s : SortColumn) : s.fragment? = if s.isNamed then some s.fragment else none := by
  unfold fragment? isNamed fragment
  cases sanitizeField s.field <;> rfl

theorem not_mem_sanitizeField {c : Char} (hc : isFieldChar c = false) (v : Value) : c ∉ sanitizeField v :=
  fun h => absurd (isFieldChar_of_mem_sanitizeField h) (by simp [hc])

theorem not_mem_name (direction : SortDirection) : ',' ∉ direction.name.toList ∧ ' ' ∉ direction.name.toList := by
  cases direction <;> decide

theorem comma_not_mem_fragment (s : SortColumn) : ',' ∉ s.fragment := by
  simp [fragment, not_mem_sanitizeField (show isFieldChar ',' = false by decide), not_mem_name]

theorem splitAtEach_fragment (s : SortColumn) : splitAtEach ' ' s.fragment = s.parts := by
  rw [fragment, splitAtEach_append_cons (not_mem_sanitizeField (by decide) _),
    splitAtEach_of_not_mem (not_mem_name _).2]
  rfl

end SortColumn

theorem filterMap_fragment? (sorts : List SortColumn) :
    sorts.filterMap SortColumn.fragment? = (sorts.filter (·.isNamed)).map SortColumn.fragment := by
  induction sorts with
  | nil => rfl
  | cons s rest ih =>
    rw [List.filterMap_cons, List.filter_cons, s.fragment?_eq, ih]
    cases s.isNamed <;> rfl

/-- What a compiled sort order says: there is none just if no column has a field name; else its columns are the field
names and directions of those that do, in their order. -/
structure SaysColumns (sorts : List SortColumn) (result : Option String) : Prop where
  eq_none_iff : result = none ↔ ∀ s ∈ sorts, sanitizeField s.field = []
  columnsIn_eq : ∀ text ∈ result, columnsIn text = (sorts.filter (·.isNamed)).map SortColumn.parts

/-- **Fields and directions are read back from a sort order.** -/
theorem saysColumns_compileOrderBy (sorts : List SortColumn) : SaysColumns sorts (compileOrderBy sorts) := by
  have hnone : sorts.filterMap SortColumn.fragment? = [] ↔ ∀ s ∈ sorts, sanitizeField s.field = [] := by
    rw [filterMap_fragment?, List.map_eq_nil_iff, List.filter_eq_nil_iff]
    simp [SortColumn.isNamed]
  constructor
  · rw [← hnone, ← List.isEmpty_iff]
    unfold compileOrderBy
    dsimp only
    split <;> simp_all
  · intro text htext
    unfold compileOrderBy at htext
    dsimp only at htext
    split at htext
    · contradiction
    · rename_i hne
      rw [← Option.some.inj htext, columnsIn, String.toList_ofList, splitAtEach_joinWith (by simpa using hne)]
      · rw [filterMap_fragment?, List.map_map]
        exact List.map_congr_left fun s _ => s.splitAtEach_fragment
      · intro part hpart
        rw [filterMap_fragment?] at hpart
        obtain ⟨s, -, rfl⟩ := List.mem_map.1 hpart
        exact s.comma_not_mem_fragment

/-! ## Columns whose fields can be written out -/

theorem presentSort_eq_ok_iff {s found : SortColumn} :
    presentSort (some s) = .ok found ↔ s.field.checkText Value.maxDepth = .ok () ∧ found = s := by
  unfold presentSort sanitizeFieldOf
  dsimp only
  cases s.field.checkText Value.maxDepth with
  | error fault => simp [Except.map]
  | ok => simp [Except.map, eq_comm]

/-- A list of columns can be compiled just if the texts of the fields can be written out. -/
theorem compileSorts_eq_ok_iff {sorts : List SortColumn} {result : Option String} :
    compileSorts (sorts.map some) = .ok result ↔
      (∀ s ∈ sorts, s.field.checkText Value.maxDepth = .ok ()) ∧ result = compileOrderBy sorts := by
  have hwalk : (sorts.mapM (presentSort ∘ some)).map compileOrderBy = .ok result ↔ _ :=
    Fault.map_mapM_eq_ok_iff (g := id) fun _ _ => presentSort_eq_ok_iff
  rwa [← List.mapM_map, List.map_id] at hwalk

/-! ## Columns of a table -/

/-- The field and the order in an entry of the metadata, none where the entry is no map. -/
def givenSort? : Value → Option (Value × Value)
  | .map entries => some ((Value.map entries).field "field", (Value.lookup? entries "order").getD (.int 1))
  | _ => none

/-- The fields and orders in the metadata of a table: those of the list if there is one, and else the single ones if
the field says something. -/
def givenSorts (multi : Option (List Value)) (field order : Value) : List (Value × Value) :=
  match multi with
  | some (entry :: entries) => (entry :: entries).filterMap givenSort?
  | _ => if field.isPresent then [(field, order)] else []

/-- Whether a column is that of a given field and order. A field that says nothing has no field name. -/
structure IsFor (given : Value × Value) (s : SortColumn) : Prop where
  field_eq : sanitizeField s.field = if given.1.isPresent then sanitized given.1.display else []
  direction_eq_desc_iff : s.direction = .desc ↔ IsDescending given.2

/-- The text of the field in an entry, the empty text where it says nothing. -/
def entryColumn (given : Value × Value) : SortColumn :=
  ⟨.textual (given.1.orElse (.text "")).asText, .parse given.2⟩

theorem isFor_entryColumn (given : Value × Value) : IsFor given (entryColumn given) where
  field_eq := by
    change sanitized (given.1.orElse (.text "")).asText.shown = _
    rw [Value.shown_asText, Value.orElse]
    split <;> rfl
  direction_eq_desc_iff := parse_eq_desc_iff given.2

theorem sanitizeField_of_isPresent {v : Value} (h : v.isPresent = true) : sanitizeField v = sanitized v.display := by
  unfold sanitizeField
  split
  · exact absurd h (by decide)
  · rfl

theorem isFor_single {field : Value} (h : field.isPresent = true) (order : Value) :
    IsFor (field, order) ⟨field, .parse order⟩ where
  field_eq := by rw [sanitizeField_of_isPresent h, if_pos h]
  direction_eq_desc_iff := parse_eq_desc_iff order

theorem entrySort?_eq_ok_iff {entry : Value} {found : Option SortColumn} : entrySort? entry = .ok found ↔
    (∀ given ∈ givenSort? entry, given.1.checkText Value.maxDepth = .ok ()) ∧
      found = (givenSort? entry).map entryColumn := by
  cases entry with
  | map entries =>
    have hcheck := ((Value.map entries).field "field").checkText_orElse_text "" (show Value.maxDepth ≠ 0 by decide)
    simp only [entrySort?, hcheck, givenSort?, Option.mem_some, forall_eq', Option.map_some, entryColumn]
    cases ((Value.map entries).field "field").checkText Value.maxDepth with
    | error fault => simp [bind, Except.bind]
    | ok => simp [bind, Except.bind, pure, Except.pure, eq_comm]
  | _ => simp [entrySort?, givenSort?, eq_comm]

theorem reduceOption_map {α β γ : Type} (f : α → Option β) (g : β → γ) (xs : List α) :
    (xs.map fun x => (f x).map g).reduceOption = (xs.filterMap f).map g := by
  rw [List.reduceOption, List.filterMap_map, List.map_filterMap]
  rfl

/-- A list of entries has columns just if the texts of the given fields can be written out, one for each of them. -/
theorem sortsFromTable_list_eq_ok_iff {entry : Value} {entries : List Value} {field order : Value}
    {found : List SortColumn} : sortsFromTable (.list (entry :: entries)) field order = .ok found ↔
      (∀ given ∈ (entry :: entries).filterMap givenSort?, given.1.checkText Value.maxDepth = .ok ()) ∧
        found = ((entry :: entries).filterMap givenSort?).map entryColumn := by
  have hwalk : sortsFromTable (.list (entry :: entries)) field order = .ok found ↔ _ :=
    Fault.map_mapM_eq_ok_iff (fun _ _ => entrySort?_eq_ok_iff)
  rw [hwalk, reduceOption_map, List.forall_mem_filterMap]
  simp only [Option.mem_def]

/-- Without entries the single field decides. -/
theorem sortsFromTable_of_no_entries {multi : Option (List Value)}
    (h : ∀ entry entries, multi = some (entry :: entries) → False) (field order : Value) :
    sortsFromTable (multi.elim .null .list) field order =
      .ok (if field.isPresent then [⟨field, .parse order⟩] else []) := by
  cases multi with
  | none => rfl
  | some entries =>
    cases entries with
    | nil => rfl
    | cons entry entries => exact (h entry entries rfl).elim

/-- The columns of a table are those of the given fields and orders, in their order. -/
theorem forall₂_isFor_of_sortsFromTable {multi : Option (List Value)} {field order : Value} {found : List SortColumn}
    (h : sortsFromTable (multi.elim .null .list) field order = .ok found) :
    List.Forall₂ IsFor (givenSorts multi field order) found := by
  unfold givenSorts
  split
  case h_1 entry entries =>
    rw [(sortsFromTable_list_eq_ok_iff.1 h).2, List.forall₂_map_right_iff]
    exact List.forall₂_same.2 fun given _ => isFor_entryColumn given
  case h_2 hnone =>
    rw [← Except.ok.inj ((sortsFromTable_of_no_entries hnone field order).symm.trans h)]
    split
    case isTrue hfield => exact .cons (isFor_single hfield order) .nil
    case isFalse => exact .nil

/-- The columns of a table can be had and compiled just if the texts of the given fields can be written out. -/
theorem exists_compileSorts_sortsFromTable_iff (multi : Option (List Value)) (field order : Value) :
    (∃ found result, sortsFromTable (multi.elim .null .list) field order = .ok found ∧
        compileSorts (found.map some) = .ok result) ↔
      ∀ given ∈ givenSorts multi field order, given.1.checkText Value.maxDepth = .ok () := by
  unfold givenSorts
  split
  case h_1 entry entries =>
    constructor
    · rintro ⟨found, result, hfound, -⟩
      exact (sortsFromTable_list_eq_ok_iff.1 hfound).1
    · intro hgiven
      refine ⟨_, _, sortsFromTable_list_eq_ok_iff.2 ⟨hgiven, rfl⟩, compileSorts_eq_ok_iff.2 ⟨?_, rfl⟩⟩
      -- The fields of the entries are texts by now, whatever was given.
      intro s hs
      obtain ⟨given, -, rfl⟩ := List.mem_map.1 hs
      rfl
  case h_2 hnone =>
    simp only [sortsFromTable_of_no_entries hnone, Except.ok.injEq, exists_eq_left', exists_and_left,
      compileSorts_eq_ok_iff, exists_eq, and_true]
    split <;> simp

/-- **A sort order says what its columns say, and the columns of a table say what its metadata say.**

The metadata come to a sort order just if the texts of the given fields can be written out, and their columns are those
of the given fields and orders. Any columns come to a sort order just if the texts of their fields can be written out,
and then their field names and directions are read back from it. A direction is descending just if what it was read from
means descending. -/
theorem sortOrder_spec (multi : Option (List Value)) (field order : Value) :
    ((∃ found result, sortsFromTable (multi.elim .null .list) field order = .ok found ∧
        compileSorts (found.map some) = .ok result) ↔
      ∀ given ∈ givenSorts multi field order, given.1.checkText Value.maxDepth = .ok ()) ∧
    (∀ found, sortsFromTable (multi.elim .null .list) field order = .ok found →
      List.Forall₂ IsFor (givenSorts multi field order) found) ∧
    (∀ sorts : List SortColumn, (∃ result, compileSorts (sorts.map some) = .ok result) ↔
      ∀ s ∈ sorts, s.field.checkText Value.maxDepth = .ok ()) ∧
    (∀ (sorts : List SortColumn) result, compileSorts (sorts.map some) = .ok result → SaysColumns sorts result) ∧
    ∀ direction, SortDirection.parse direction = .desc ↔ IsDescending direction := by
  refine ⟨exists_compileSorts_sortsFromTable_iff multi field order,
    fun found => forall₂_isFor_of_sortsFromTable, fun sorts => ?_, fun sorts result h => ?_, parse_eq_desc_iff⟩
  · simp only [compileSorts_eq_ok_iff, exists_and_left, exists_eq, and_true]
  · rw [(compileSorts_eq_ok_iff.1 h).2]
    exact saysColumns_compileOrderBy sorts

/-- Entries whose fields hold a comma with a direction, a space, and nothing of a field name. -/
def hostileEntries : List Value := [
  .ofFields [("field", .text "Name,Price desc"), ("order", .int (-1))],
  .ofFields [("field", .text "A b"), ("order", .text " DESC ")],
  .ofFields [("field", .text "','"), ("order", .int 1)]]

/-- The columns of these entries. -/
def hostileColumns : List SortColumn :=
  [⟨.text "Name,Price desc", .desc⟩, ⟨.text "A b", .desc⟩, ⟨.text "','", .asc⟩]

/-- No column comes of the commas and spaces in the fields. -/
theorem sortOrder_spec_hostileEntries :
    sortsFromTable (.list hostileEntries) .null (.int 1) = .ok hostileColumns ∧
      List.Forall₂ IsFor (givenSorts (some hostileEntries) .null (.int 1)) hostileColumns ∧
      compileSorts (hostileColumns.map some) = .ok (some "NamePricedesc desc,Ab desc") ∧
      columnsIn "NamePricedesc desc,Ab desc" =
        [["NamePricedesc".toList, "desc".toList], ["Ab".toList, "desc".toList]] := by
  obtain ⟨-, hcolumns, -, hback, -⟩ := sortOrder_spec (some hostileEntries) .null (.int 1)
  have htable : sortsFromTable (.list hostileEntries) .null (.int 1) = .ok hostileColumns := by rfl
  have hcompiled : compileSorts (hostileColumns.map some) = .ok (some "NamePricedesc desc,Ab desc") := by rfl
  exact ⟨htable, hcolumns hostileColumns htable, hcompiled, (hback _ _ hcompiled).columnsIn_eq _ rfl⟩

end Query

end ODataBrowser
