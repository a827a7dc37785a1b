import ODataBrowser.Proofs.Column.Growth
import ODataBrowser.Proofs.Query.Filter

/-!
# Filters under growing types

A filter is compiled for the type of its column, and a column without a type counts as one of texts. So rows
that are observed change a compiled filter only where they give a column that it looks up, and that had no
type, another type than this one (`compileFilterText_foldl_observe`).
-/

namespace ODataBrowser.Query

theorem MatchMode.onColumn_getD (mode : MatchMode) (type : Option ColumnType) :
    mode.onColumn (some (type.getD .string)) = mode.onColumn type := by
  cases type <;> rfl

theorem literalText_getD (v : Value) (type : Option ColumnType) :
    literalText v (some (type.getD .string)) = literalText v type := by
  cases type <;> rfl

namespace Filter

/-- The type that a filter is compiled for. -/
def compiledType (types : ColumnTypes) (f : Filter) : ColumnType :=
  (f.columnType? types).getD .string

/-- The clause of a filter on a column of the given type. -/
def clauseOn? (type : ColumnType) (f : Filter) : Except Fault (Option Clause) := do
  if type = .object then return none
  let literal ← literalText f.value (some type)
  return some ⟨sanitizeField f.field, (MatchMode.parse f.mode).onColumn (some type), literal⟩

/-- The types come into a clause only through the type that its filter is compiled for. -/
theorem clause?_eq_clauseOn? (types : ColumnTypes) {f : Filter} (hvalue : isEmptyValue f.value = false)
    (hname : sanitizeField f.field ≠ []) :
    f.clause? types = f.field.toKey.bind fun _ => f.clauseOn? (f.compiledType types) := by
  have hactive : ¬(isEmptyValue f.value || (sanitizeField f.field).isEmpty) = true := by
    simp [hvalue, hname]
  unfold clause? column?
  rw [if_neg hactive]
  cases hkey : f.field.toKey with
  | error fault =>
    rw [fieldType, hkey]
    rfl
  | ok key =>
    rw [fieldType_of_toKey hkey types, compiledType]
    unfold clauseOn?
    rw [literalText_getD, MatchMode.onColumn_getD]
    cases f.columnType? types with
    | none => rfl
    | some type =>
      by_cases hobject : type = .object <;> simp [hobject, bind, Except.bind, pure, Except.pure]

/-- Whether rows leave the type that a filter is compiled for: each column that it looks up and that has no
type gets this type from them, or none. -/
def KeepsType (types : ColumnTypes) (rows : List Value) (f : Filter) : Prop :=
  isEmptyValue f.value = false → sanitizeField f.field ≠ [] →
    ∀ key, f.field.toKey = .ok key → types.type? key = none →
      ∀ column ∈ [key, .textual (.ofChars (sanitizeField f.field))], types.type? column = none →
        ∀ type, givenType? rows column = some type → type = f.compiledType types

theorem KeepsType.of_append {types : ColumnTypes} {rows more : List Value} {f : Filter}
    (h : f.KeepsType types (rows ++ more)) : f.KeepsType types rows := by
  intro hvalue hname key hkey hnone column hcolumn hfree type htype
  refine h hvalue hname key hkey hnone column hcolumn hfree type ?_
  rw [givenType?_append, htype, Option.some_or]

theorem compiledType_foldl_observe {types : ColumnTypes} {pages : List (List Value)} {f : Filter}
    (h : f.KeepsType types pages.flatten) (hvalue : isEmptyValue f.value = false)
    (hname : sanitizeField f.field ≠ []) :
    f.compiledType (pages.foldl .observe types) = f.compiledType types := by
  have h := h hvalue hname
  unfold compiledType columnType? at *
  cases hkey : f.field.toKey with
  | error fault => rfl
  | ok key =>
    simp only [hkey, ColumnTypes.type?_foldl_observe] at h ⊢
    -- The field as given is looked up first; the field name counts only where that has no type.
    cases hfree : types.type? key with
    | some type => rfl
    | none =>
      have hgiven := h key rfl hfree
      rw [hfree, Option.none_or] at hgiven
      rw [Option.none_or, Option.none_or]
      cases hrows : givenType? pages.flatten key with
      | some type => exact hgiven key List.mem_cons_self hfree type hrows
      | none =>
        rw [Option.none_or]
        cases hnamed : types.type? (.textual (.ofChars (sanitizeField f.field))) with
        | some type => rfl
        | none =>
          rw [hnamed] at hgiven
          rw [Option.none_or]
          cases hlater : givenType? pages.flatten (.textual (.ofChars (sanitizeField f.field))) with
          | none => rfl
          | some type => exact hgiven _ (List.mem_cons_of_mem _ List.mem_cons_self) hnamed type hlater

theorem clause?_foldl_observe {types : ColumnTypes} {pages : List (List Value)} {f : Filter}
    (h : f.KeepsType types pages.flatten) :
    f.clause? (pages.foldl .observe types) = f.clause? types := by
  by_cases hactive : isEmptyValue f.value = false ∧ sanitizeField f.field ≠ []
  · obtain ⟨hvalue, hname⟩ := hactive
    rw [clause?_eq_clauseOn? _ hvalue hname, clause?_eq_clauseOn? _ hvalue hname,
      compiledType_foldl_observe h hvalue hname]
  · have hempty : (isEmptyValue f.value || (sanitizeField f.field).isEmpty) = true := by
      by_contra hne
      simp at hne
      exact hactive hne
    rw [clause?, clause?, column?, column?, if_pos hempty, if_pos hempty]

end Filter

/-- **Rows that keep the types of the filters keep the compiled filter.** -/
theorem compileFilterText_foldl_observe {types : ColumnTypes} {pages : List (List Value)}
    {filters : List Filter} (h : ∀ f ∈ filters, f.KeepsType types pages.flatten) :
    compileFilterText (pages.foldl .observe types) filters = compileFilterText types filters := by
  have hclauses : filters.mapM (·.clause? (pages.foldl .observe types)) = filters.mapM (·.clause? types) := by
    induction filters with
    | nil => rfl
    | cons f filters ih =>
      rw [List.forall_mem_cons] at h
      rw [List.mapM_cons, List.mapM_cons, ih h.2, Filter.clause?_foldl_observe h.1]
  rw [compileFilterText, compileFilterText, hclauses]

end ODataBrowser.Query
