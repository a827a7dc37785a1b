import ODataBrowser.Proofs.Query.Expressible

/-!
# Which filters can be compiled

Filters are compiled just if each value that takes part has a literal of the type of its column, and then a value that
the type cannot express has the fallback of the type as its literal (`compileFilterText_spec`). So one value without a
literal keeps them all from being compiled.
-/

namespace ODataBrowser

/-! ## Lists -/

/-- A list of calls returns just if each of them does. -/
theorem Fault.exists_mapM_eq_ok_iff {α β : Type} {f : α → Except Fault β} {xs : List α} :
    (∃ ys, xs.mapM f = .ok ys) ↔ ∀ x ∈ xs, ∃ y, f x = .ok y := by
  simp only [mapM_eq_ok_iff]
  induction xs with
  | nil => exact iff_of_true ⟨[], .nil⟩ (by simp)
  | cons x xs ih =>
    rw [List.forall_mem_cons, ← ih]
    constructor
    · rintro ⟨_, hy | ⟨hy, hrest⟩⟩
      exact ⟨⟨_, hy⟩, _, hrest⟩
    · rintro ⟨⟨y, hy⟩, rest, hrest⟩
      exact ⟨y :: rest, .cons hy hrest⟩

/-- A walk over a list that returns what it makes of the items, if it takes every one of them. -/
theorem Fault.map_mapM_eq_ok_iff {α β γ : Type} {f : α → Except Fault β} {p : α → Prop} {g : α → β}
    (hf : ∀ x y, f x = .ok y ↔ p x ∧ y = g x) {k : List β → γ} {xs : List α} {z : γ} :
    (xs.mapM f).map k = .ok z ↔ (∀ x ∈ xs, p x) ∧ z = k (xs.map g) := by
  have hmapM (ys : List β) : xs.mapM f = .ok ys ↔ (∀ x ∈ xs, p x) ∧ ys = xs.map g := by
    simp only [mapM_eq_ok_iff, hf]
    induction xs generalizing ys with
    | nil => simp
    | cons x rest ih =>
      rw [List.forall₂_cons_left_iff, List.forall_mem_cons, List.map_cons]
      simp only [ih]
      constructor
      · rintro ⟨_, _, ⟨hx, rfl⟩, ⟨hrest, rfl⟩, rfl⟩
        exact ⟨⟨hx, hrest⟩, rfl⟩
      · rintro ⟨⟨hx, hrest⟩, rfl⟩
        exact ⟨_, _, ⟨hx, rfl⟩, ⟨hrest, rfl⟩, rfl⟩
  constructor
  · intro h
    obtain ⟨ys, hys, rfl⟩ := Fault.exists_of_map_eq_ok h
    obtain ⟨hall, rfl⟩ := (hmapM ys).1 hys
    exact ⟨hall, rfl⟩
  · rintro ⟨hall, rfl⟩
    rw [(hmapM _).2 ⟨hall, rfl⟩]
    rfl

namespace Query

open Text

/-! ## Filters one after the other -/

/-- A filter with a text as its field has a field name and a column type just if it takes part in the query. -/
theorem Filter.column?_eq {f : Filter} {t : JsonText} (hf : f.field = .textual t) (types : ColumnTypes) :
    f.column? types =
      .ok (if f.survives types then some (sanitizeField f.field, f.columnType? types) else none) := by
  have hkey : f.field.toKey = .ok (.textual t) := by
    rw [hf]
    rfl
  obtain ⟨column?, hcolumn⟩ : ∃ column?, f.column? types = .ok column? := by
    unfold Filter.column?
    dsimp only
    split
    case isTrue => exact ⟨none, rfl⟩
    case isFalse =>
      rw [fieldType_of_toKey hkey types]
      by_cases hobject : f.columnType? types = some .object
      · exact ⟨none, if_pos hobject⟩
      · exact ⟨some _, if_neg hobject⟩
  rw [hcolumn, eq_of_column? hcolumn]

/-- The clause of a filter with the given literal. -/
def Filter.withLiteral (types : ColumnTypes) (f : Filter) (literal : JsonText) : JsonText :=
  let frame := clauseFrame (sanitizeField f.field) ((MatchMode.parse f.mode).onColumn (f.columnType? types))
  literal.between frame.1 frame.2

theorem Filter.Means.text_eq {types : ColumnTypes} {f : Filter} {c : Clause} (h : f.Means types c) :
    c.text = f.withLiteral types c.literal := by
  rw [Clause.text, h.field_eq, h.mode_eq]
  rfl

/-- Whether the literal of a filter is the given one, and the fallback of the type of its column where the type cannot
express the value. -/
structure Filter.Writes (types : ColumnTypes) (f : Filter) (literal : JsonText) : Prop where
  literal_eq : literalText f.value (f.columnType? types) = .ok literal
  eq_fallback : ¬IsExpressible f.value (f.columnType? types) → literal = fallback (f.columnType? types)

theorem Filter.Means.writes {types : ColumnTypes} {f : Filter} {c : Clause} (h : f.Means types c) :
    f.Writes types c.literal where
  literal_eq := h.literal_eq
  eq_fallback hinexpressible := eq_fallback_of_literalText hinexpressible h.literal_eq

theorem Filter.exists_clause?_iff {types : ColumnTypes} {f : Filter} {t : JsonText} (hf : f.field = .textual t) :
    (∃ clause?, f.clause? types = .ok clause?) ↔
      (f.survives types = true → HasLiteral f.value (f.columnType? types)) := by
  unfold Filter.clause?
  rw [column?_eq hf]
  cases f.survives types with
  | false => exact iff_of_true ⟨none, rfl⟩ nofun
  | true =>
    rw [forall_prop_of_true rfl, ← exists_literalText_iff]
    change (∃ clause?, literalText f.value (f.columnType? types) >>= _ = .ok clause?) ↔ _
    cases literalText f.value (f.columnType? types) with
    | error fault => exact iff_of_false nofun nofun
    | ok literal => exact iff_of_true ⟨_, rfl⟩ ⟨_, rfl⟩

/-- The texts of clauses are those of the filters that stand for them, with the literals of the clauses. -/
theorem map_text_eq_zipWith {types : ColumnTypes} {filters : List Filter} {cs : List Clause}
    (h : List.Forall₂ (Filter.Means types) filters cs) :
    cs.map Clause.text = List.zipWith (Filter.withLiteral types) filters (cs.map Clause.literal) := by
  induction h with
  | nil => rfl
  | cons hc _ ih => rw [List.map_cons, List.map_cons, List.zipWith_cons_cons, hc.text_eq, ih]

/-- The clauses joined by `and`, none where there is no clause. -/
def conjunction (clauses : List JsonText) : Option JsonText :=
  if clauses.isEmpty then none else some (.joined (clauses.intersperse (.string " and ")))

theorem conjunction_eq_none_iff {clauses : List JsonText} : conjunction clauses = none ↔ clauses = [] := by
  cases clauses with
  | nil => exact iff_of_true rfl rfl
  | cons clause rest => exact iff_of_false nofun nofun

theorem compileFilterText_eq_map (types : ColumnTypes) (filters : List Filter) :
    compileFilterText types filters =
      (filters.mapM (Filter.clause? types)).map fun clauses? => conjunction (clauses?.reduceOption.map Clause.text) := by
  unfold compileFilterText conjunction
  simp only [List.isEmpty_map]
  cases filters.mapM (Filter.clause? types) with
  | error fault => rfl
  | ok clauses? => exact (apply_ite Except.ok ..).symm

/-- **What becomes of a list of filters** whose fields are texts. They are compiled just if the value of each survivor
has a literal of the type of its column. There is no result just if no filter survives. Otherwise it is the clauses
of the survivors, in order and joined by `and`, and a value that the type cannot express is written as the fallback of
the type. -/
theorem compileFilterText_spec {types : ColumnTypes} {filters : List Filter}
    (hfields : ∀ f ∈ filters, ∃ t, f.field = .textual t) :
    ((∃ result, compileFilterText types filters = .ok result) ↔
      ∀ f ∈ filters, f.survives types = true → HasLiteral f.value (f.columnType? types)) ∧
    ∀ result, compileFilterText types filters = .ok result →
      (result = none ↔ filters.filter (·.survives types) = []) ∧
      ∃ literals, List.Forall₂ (Filter.Writes types) (filters.filter (·.survives types)) literals ∧
        result = conjunction (List.zipWith (Filter.withLiteral types) (filters.filter (·.survives types)) literals) := by
  rw [compileFilterText_eq_map]
  constructor
  · rw [Fault.exists_map_eq_ok_iff, Fault.exists_mapM_eq_ok_iff]
    refine forall₂_congr fun f hf => ?_
    exact Filter.exists_clause?_iff (hfields f hf).choose_spec
  · intro result h
    obtain ⟨clauses?, hclauses, rfl⟩ := Fault.exists_of_map_eq_ok h
    have hmeans := forall₂_of_clauses hclauses
    refine ⟨?_, clauses?.reduceOption.map Clause.literal, ?_, congrArg conjunction (map_text_eq_zipWith hmeans)⟩
    · rw [conjunction_eq_none_iff, List.map_eq_nil_iff, ← List.length_eq_zero_iff, ← List.length_eq_zero_iff,
        hmeans.length_eq]
    · exact List.forall₂_map_right_iff.2 (hmeans.imp fun _ _ hc => hc.writes)

/-- A text that is no number, a signaling not-a-number and a text that is no date leave fallbacks behind; a text with
a lone surrogate is written as it is. -/
theorem compileFilterText_spec_of_four :
    let types : ColumnTypes := [(.text "N", .number), (.text "D", .date)]
    let filters : List Filter := [
      ⟨.text "N", .text "many", .text "contains"⟩,
      ⟨.text "N", .decimal (.nan false true none), .text "notEquals"⟩,
      ⟨.text "D", .text "soon", .null⟩,
      ⟨.text "S", .textual (.broken ['a'] 0 []), .text "endsWith"⟩]
    (∀ f ∈ filters, ∃ t, f.field = .textual t) ∧ ∃ literals,
      List.Forall₂ (Filter.Writes types) filters literals ∧
      compileFilterText types filters = .ok (conjunction (List.zipWith (Filter.withLiteral types) filters literals)) ∧
      literals.take 3 = [.string "0", .string "0", .string "''"] := by
  intro types filters
  have hfields : ∀ f ∈ filters, ∃ t, f.field = .textual t := by
    simp [filters]
  have hresult : compileFilterText types filters = .ok (some (.broken
      "N eq 0 and N ne 0 and D eq '' and endswith(S,'a".toList 0 ("')".toList.map .char))) := Fault.eq_ok_of_toOption (by decide +kernel)
  obtain ⟨literals, hwrites, htext⟩ := ((compileFilterText_spec hfields).2 _ hresult).2
  have hsurvivors : filters.filter (·.survives types) = filters := rfl
  rw [hsurvivors] at hwrites htext
  refine ⟨hfields, literals, hwrites, hresult.trans (congrArg Except.ok htext), ?_⟩
  change List.Forall₂ _ [filters[0], filters[1], filters[2], filters[3]] _ at hwrites
  obtain _ | @⟨_, a, _, _, ha, _ | @⟨_, b, _, _, hb, _ | @⟨_, c, _, _, hc, _⟩⟩⟩ := hwrites
  rw [← Except.ok.inj ha.literal_eq, ← Except.ok.inj hb.literal_eq, ← Except.ok.inj hc.literal_eq]
  rfl

/-- A time before the first year of universal time, a decimal beyond the range of calculation and a signaling
not-a-number in a column of truth values keep filters from being compiled. -/
theorem compileFilterText_fails :
    let types : ColumnTypes := [(.text "D", .date), (.text "N", .number), (.text "B", .boolean)]
    compileFilterText types [⟨.text "D", .text "0001-01-01T00:00:00+01:00", .null⟩] = .error .outOfRange ∧
    compileFilterText types [⟨.text "N", .decimal (.finite false 1 1000000), .null⟩] = .error .decimalOverflow ∧
    compileFilterText types [⟨.text "B", .decimal (.nan false true none), .null⟩] = .error .signalingComparison :=
  ⟨rfl, rfl, rfl⟩

end Query

end ODataBrowser
