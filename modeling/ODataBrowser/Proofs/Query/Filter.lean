import Mathlib.Data.List.Forall2
import Mathlib.Data.List.ReduceOption
import ODataBrowser.Proofs.Query.Number

/-!
# What a compiled filter says

A compiled filter is read back as one clause for each filter that survives, in their order: nothing in a
field name or a value can add, remove or change a clause (`readFilter_compileFilterText`). Behind this stands that
whatever the type of a column, a value is written as a literal (`isLiteral_of_literalText`).
-/

namespace ODataBrowser

/-! ## Calls one after the other -/

theorem Fault.mapM_eq_ok_iff {α β : Type} {f : α → Except Fault β} {xs : List α} {ys : List β} :
    xs.mapM f = .ok ys ↔ List.Forall₂ (fun x y => f x = .ok y) xs ys := by
  induction xs generalizing ys with
  | nil =>
    rw [List.mapM_nil, List.forall₂_nil_left_iff]
    exact ⟨fun h => (Except.ok.inj h).symm, fun h => h ▸ rfl⟩
  | cons x xs ih =>
    rw [List.mapM_cons]
    constructor
    · intro h
      obtain ⟨y, hy, h⟩ := Fault.exists_of_bind_eq_ok h
      obtain ⟨rest, hrest, h⟩ := Fault.exists_of_bind_eq_ok h
      rw [← Except.ok.inj h]
      exact .cons hy (ih.1 hrest)
    · rintro (_ | @⟨_, y, _, rest, hy, hrest⟩)
      rw [hy, ih.2 hrest]
      rfl

namespace Query

open Text

/-! ## Literals -/

theorem isLiteral_of_isNumber {cs : List Char} (h : isNumber cs = true) : IsLiteral (.ofChars cs) :=
  .inl ⟨cs, by simp [isToken, h], rfl⟩

theorem isLiteral_boolLiteral (b : Bool) : IsLiteral (.ofChars (boolLiteral b)) :=
  .inl ⟨_, by cases b <;> simp [isToken], rfl⟩

theorem isLiteral_textLiteral (cs : List Char) : IsLiteral (.ofChars (textLiteral cs)) := by
  refine .inr ⟨cs.map .char, ?_⟩
  rw [JsonText.points_ofChars, textLiteral, List.map_append, List.map_cons, map_char_escape]
  rfl

/-- A text without apostrophes needs none doubled. -/
theorem escape_of_not_mem {cs : List Char} (h : '\'' ∉ cs) : escape cs = cs := by
  unfold escape
  induction cs with
  | nil => rfl
  | cons c cs ih =>
    rw [List.mem_cons, not_or] at h
    rw [List.flatMap_cons, if_neg (Ne.symm h.1), ih h.2]
    rfl

theorem isLiteral_quoted {cs : List Char} (h : '\'' ∉ cs) : IsLiteral (.ofChars ('\'' :: cs ++ ['\''])) := by
  have hliteral := isLiteral_textLiteral cs
  rwa [textLiteral, escape_of_not_mem h] at hliteral

theorem not_mem_timestampText (t : Timestamp) : '\'' ∉ timestampText t := by
  have hnat (n : Nat) : '\'' ∉ Numeral.ofNat n := fun h =>
    absurd ((isDigits_toDigits n).2 _ h) (by decide)
  have hpadded (width n : Nat) : '\'' ∉ Numeral.padded width n := by
    simp [Numeral.padded, hnat, List.mem_replicate]
  simp [timestampText, hnat, hpadded]

theorem isLiteral_encodeString (v : Value) : IsLiteral (.ofChars (encodeString v)) := by
  unfold encodeString
  split <;> exact isLiteral_textLiteral _

theorem isLiteral_of_stringText {v : Value} {literal : JsonText} (h : stringText v = .ok literal) :
    IsLiteral literal := by
  unfold stringText at h
  split at h
  case h_1 t =>
    obtain ⟨literal', hliteral, hpoints⟩ := exists_stringText t
    obtain rfl := Except.ok.inj (hliteral.symm.trans h)
    exact .inr ⟨_, hpoints⟩
  case h_2 =>
    obtain ⟨_, -, rfl⟩ := Fault.exists_of_map_eq_ok h
    exact isLiteral_encodeString v

theorem isLiteral_of_encodeNumber {v : Value} {cs : List Char} (h : encodeNumber v = .ok cs) :
    IsLiteral (.ofChars cs) := by
  apply isLiteral_of_isNumber
  unfold encodeNumber at h
  split at h
  · rename_i b
    rw [← Except.ok.inj h]
    cases b <;> rfl
  · obtain ⟨_, -, rfl⟩ := Fault.exists_of_map_eq_ok h
    exact isNumber_ofInt _
  · exact isNumber_of_encodeDecimal h
  · rw [← Except.ok.inj h]
    exact isNumber_encodeBinary64 _
  · unfold encodeNumeral at h
    split at h
    · split at h
      · rw [← Except.ok.inj h]
        exact isNumber_encodeBinary64 _
      · rw [← Except.ok.inj h]
        rfl
    · contradiction
    · rw [← Except.ok.inj h]
      rfl

theorem isLiteral_of_encodeBoolean {v : Value} {cs : List Char} (h : encodeBoolean v = .ok cs) :
    IsLiteral (.ofChars cs) := by
  have hbool : ∃ b, cs = boolLiteral b := by
    unfold encodeBoolean at h
    split at h
    · exact ⟨_, (Except.ok.inj h).symm⟩
    · exact ⟨_, (Except.ok.inj h).symm⟩
    · split at h
      · rename_i s _ _ _
        cases hc : s.compare (.int 1) with
        | error fault => simp [hc, Except.map] at h
        | ok b =>
          rw [hc] at h
          exact ⟨b, (Except.ok.inj h).symm⟩
      · exact ⟨_, (Except.ok.inj h).symm⟩
    · exact ⟨_, (Except.ok.inj h).symm⟩
  obtain ⟨b, rfl⟩ := hbool
  exact isLiteral_boolLiteral b

theorem isLiteral_of_encodeDate {v : Value} {cs : List Char} (h : encodeDate v = .ok cs) :
    IsLiteral (.ofChars cs) := by
  unfold encodeDate at h
  split at h
  · rw [← Except.ok.inj h]
    exact isLiteral_textLiteral []
  · split at h
    · rw [← Except.ok.inj h]
      exact isLiteral_quoted (not_mem_timestampText _)
    · contradiction

/-- **Every value is written as a literal**, whatever the type of its column. -/
theorem isLiteral_of_literalText {v : Value} {type : Option ColumnType} {literal : JsonText}
    (h : literalText v type = .ok literal) : IsLiteral literal := by
  match type with
  | some .number =>
    obtain ⟨cs, hcs, rfl⟩ := Fault.exists_of_map_eq_ok h
    exact isLiteral_of_encodeNumber hcs
  | some .boolean =>
    obtain ⟨cs, hcs, rfl⟩ := Fault.exists_of_map_eq_ok h
    exact isLiteral_of_encodeBoolean hcs
  | some .date =>
    obtain ⟨cs, hcs, rfl⟩ := Fault.exists_of_map_eq_ok h
    exact isLiteral_of_encodeDate hcs
  | some .string | some .object | none => exact isLiteral_of_stringText h

/-! ## Survivors -/

/-- The type of the column of a filter: that of its field as given, or else of the field name. -/
def Filter.columnType? (types : ColumnTypes) (f : Filter) : Option ColumnType :=
  match f.field.toKey with
  | .ok key => (types.type? key).or (types.type? (.textual (.ofChars (sanitizeField f.field))))
  | .error _ => none

/-- Whether a filter takes part in the query: it has a value and a field name, and its column does not hold
objects. -/
def Filter.survives (types : ColumnTypes) (f : Filter) : Bool :=
  !isEmptyValue f.value && !(sanitizeField f.field).isEmpty && f.columnType? types != some .object

/-- The clause that a filter stands for. -/
structure Filter.Means (types : ColumnTypes) (f : Filter) (c : Clause) : Prop where
  field_eq : c.field = sanitizeField f.field
  mode_eq : c.mode = (MatchMode.parse f.mode).onColumn (f.columnType? types)
  literal_eq : literalText f.value (f.columnType? types) = .ok c.literal

/-- A filter stands for one clause at most. -/
theorem Filter.Means.unique {types : ColumnTypes} {f : Filter} {c d : Clause} (hc : f.Means types c)
    (hd : f.Means types d) : c = d := by
  have hliteral := Except.ok.inj (hc.literal_eq.symm.trans hd.literal_eq)
  rw [Clause.mk.injEq]
  exact ⟨hc.field_eq.trans hd.field_eq.symm, hc.mode_eq.trans hd.mode_eq.symm, hliteral⟩

theorem Filter.fieldType_of_toKey {f : Filter} {key : Scalar} (h : f.field.toKey = .ok key)
    (types : ColumnTypes) :
    fieldType types f.field (sanitizeField f.field) = .ok (f.columnType? types) := by
  simp only [fieldType, columnType?, h, Except.map, Option.orElse_eq_orElse, Option.orElse_eq_or]

theorem Filter.columnType?_of_fieldType {types : ColumnTypes} {f : Filter} {type : Option ColumnType}
    (h : fieldType types f.field (sanitizeField f.field) = .ok type) : f.columnType? types = type := by
  cases hkey : f.field.toKey with
  | ok key => exact Except.ok.inj ((fieldType_of_toKey hkey types).symm.trans h)
  | error fault => simp [fieldType, hkey, Except.map] at h

/-- A filter has a field name and a column type just if it takes part in the query. -/
theorem Filter.eq_of_column? {types : ColumnTypes} {f : Filter} {column? : Option (List Char × Option ColumnType)}
    (h : f.column? types = .ok column?) :
    column? = if f.survives types then some (sanitizeField f.field, f.columnType? types) else none := by
  unfold Filter.column? at h
  by_cases hempty : (isEmptyValue f.value || (sanitizeField f.field).isEmpty) = true
  · have hout : f.survives types = false := by
      rw [Bool.or_eq_true] at hempty
      rcases hempty with hempty | hempty <;> simp [survives, hempty]
    rw [if_pos hempty] at h
    rw [hout]
    exact (Except.ok.inj h).symm
  · rw [if_neg hempty] at h
    rw [Bool.not_eq_true, Bool.or_eq_false_iff] at hempty
    obtain ⟨type, htype, h⟩ := Fault.exists_of_bind_eq_ok h
    obtain rfl := columnType?_of_fieldType htype
    by_cases hobject : f.columnType? types = some .object
    · rw [if_pos hobject] at h
      rw [if_neg (by simp [survives, hobject])]
      exact (Except.ok.inj h).symm
    · rw [if_neg hobject] at h
      rw [if_pos (by simp [survives, hempty, hobject])]
      exact (Except.ok.inj h).symm

theorem Filter.clause?_cases {types : ColumnTypes} {f : Filter} {clause? : Option Clause}
    (h : f.clause? types = .ok clause?) :
    f.survives types = false ∧ clause? = none ∨
      f.survives types = true ∧ ∃ c, clause? = some c ∧ f.Means types c := by
  obtain ⟨column?, hcolumn, h⟩ := Fault.exists_of_bind_eq_ok h
  obtain rfl := eq_of_column? hcolumn
  cases hin : f.survives types with
  | false =>
    rw [hin] at h
    exact .inl ⟨rfl, (Except.ok.inj h).symm⟩
  | true =>
    rw [hin] at h
    obtain ⟨literal, hliteral, h⟩ := Fault.exists_of_bind_eq_ok h
    exact .inr ⟨rfl, _, (Except.ok.inj h).symm, rfl, rfl, hliteral⟩

/-- The clauses of filters are those that the survivors stand for. -/
theorem forall₂_of_clauses {types : ColumnTypes} {filters : List Filter} {clauses? : List (Option Clause)}
    (h : filters.mapM (·.clause? types) = .ok clauses?) :
    List.Forall₂ (Filter.Means types) (filters.filter (·.survives types)) clauses?.reduceOption := by
  replace h := Fault.mapM_eq_ok_iff.1 h
  induction h with
  | nil => exact .nil
  | cons hclause _ ih =>
    rcases Filter.clause?_cases hclause with ⟨hout, rfl⟩ | ⟨hin, c, rfl, hc⟩
    · rw [List.filter_cons_of_neg (by simp [hout])]
      exact ih
    · rw [List.filter_cons_of_pos hin]
      exact .cons hc ih

theorem isFieldChar_of_mem_sanitizeField {v : Value} {c : Char} (h : c ∈ sanitizeField v) :
    isFieldChar c = true := by
  unfold sanitizeField at h
  split at h
  · exact absurd h List.not_mem_nil
  · exact (List.mem_filter.1 h).2

theorem Filter.Means.wellFormed {types : ColumnTypes} {f : Filter} {c : Clause}
    (h : f.Means types c) (hf : f.survives types = true) : c.WellFormed where
  field_ne_nil := by
    intro hnil
    rw [h.field_eq] at hnil
    simp [survives, hnil] at hf
  isFieldChar_of_mem d hd := isFieldChar_of_mem_sanitizeField (h.field_eq ▸ hd)
  isLiteral := isLiteral_of_literalText h.literal_eq

/-- **A compiled filter says what its filters say.** There is none just if no filter survives. Otherwise it is
read as one clause for each survivor, in order: the field name, the mode that applies to the column, and the
value as a literal. -/
theorem readFilter_compileFilterText {types : ColumnTypes} {filters : List Filter} {result : Option JsonText}
    (h : compileFilterText types filters = .ok result) :
    (result = none ↔ filters.filter (·.survives types) = []) ∧
    ∀ text, result = some text → ∃ cs, readFilter text.points = some cs ∧
      List.Forall₂ (Filter.Means types) (filters.filter (·.survives types)) cs := by
  obtain ⟨clauses?, hclauses, h⟩ := Fault.exists_of_bind_eq_ok h
  have hmeans := forall₂_of_clauses hclauses
  dsimp only at h
  generalize clauses?.reduceOption = cs at h hmeans
  have hwell : ∀ c ∈ cs, c.WellFormed := by
    intro c hc
    obtain ⟨hlength, hget⟩ := List.forall₂_iff_get.1 hmeans
    obtain ⟨i, rfl⟩ := List.get_of_mem hc
    have hi : i.1 < (filters.filter (·.survives types)).length := by
      rw [hlength]
      exact i.2
    exact (hget i.1 hi i.2).wellFormed (List.mem_filter.1 (List.get_mem _ ⟨i.1, hi⟩)).2
  cases cs with
  | nil =>
    have hnone := Except.ok.inj h
    rw [← hnone, List.forall₂_nil_right_iff.1 hmeans]
    simp
  | cons c cs =>
    have hsome := Except.ok.inj h
    rw [← hsome]
    refine ⟨iff_of_false (by simp) fun hnil => ?_, ?_⟩
    · rw [hnil] at hmeans
      exact absurd hmeans (by simp)
    · rintro text htext
      rw [← Option.some.inj htext, JsonText.joined, JsonText.points_ofPoints]
      exact ⟨c :: cs, readFilter_joinedPoints (List.cons_ne_nil c cs) hwell, hmeans⟩

/-- A value that holds a whole clause and a lone surrogate, and a field that is a word of the language, stay what
they are. -/
theorem readFilter_compileFilterText_of_hostile :
    let types : ColumnTypes := [(.textual (.string "Price"), .number)]
    let filters : List Filter := [
      ⟨.text "eq", .textual (.broken "x' and startswith(A,'y".toList 0 []), .text "startsWith"⟩,
      ⟨.text "A", .text "", .null⟩,
      ⟨.text "Pr ice", .text "1e3) or (1 eq 1", .text "notEquals"⟩]
    let result : JsonText := .broken "startswith(eq,'x'' and startswith(A,''y".toList 0
      ("') and Price ne 0".toList.map .char)
    compileFilterText types filters = .ok (some result) ∧
    readFilter result.points = some [
      ⟨"eq".toList, .startsWith, .broken "'x'' and startswith(A,''y".toList 0 [.char '\'']⟩,
      ⟨"Price".toList, .notEquals, "0"⟩] := by
  intro types filters result
  have h : compileFilterText types filters = .ok (some result) := Fault.eq_ok_of_toOption (by decide +kernel)
  obtain ⟨cs, hread, hmeans⟩ := (readFilter_compileFilterText h).2 result rfl
  have hsurvivors : filters.filter (·.survives types) = [filters[0], filters[2]] := rfl
  rw [hsurvivors] at hmeans
  obtain _ | @⟨_, c, _, _, hc, _ | @⟨_, d, _, _, hd, _ | _⟩⟩ := hmeans
  obtain rfl : c = ⟨"eq".toList, .startsWith, .broken "'x'' and startswith(A,''y".toList 0 [.char '\'']⟩ :=
    hc.unique ⟨rfl, rfl, rfl⟩
  obtain rfl : d = ⟨"Price".toList, .notEquals, "0"⟩ := hd.unique ⟨rfl, rfl, rfl⟩
  exact ⟨h, hread⟩

end Query

end ODataBrowser
