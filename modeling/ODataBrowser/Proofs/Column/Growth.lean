import ODataBrowser.Proofs.Column.Observing

/-!
# How a type map grows

The rows that are observed decide the types of the columns that had none: such a column gets the type of its
first cell that is not null, over all rows in the order in which they were observed
(`ColumnTypes.type?_foldl_observe`). A column that has a type keeps it.
-/

namespace ODataBrowser

/-- The type that rows give to a key. Only texts name columns. -/
def givenType? (rows : List Value) : Scalar → Option ColumnType
  | .textual t => columnType? rows (.textual t)
  | _ => none

theorem givenType?_append (rows more : List Value) (key : Scalar) :
    givenType? (rows ++ more) key = (givenType? rows key).or (givenType? more key) := by
  unfold givenType?
  cases key with
  | textual t => exact List.findSome?_append
  | _ => rfl

/-! ## Names of columns -/

theorem mem_addNames {names new : List JsonText} {t : JsonText} :
    t ∈ addNames names new ↔ t ∈ names ∨ t ∈ new := by
  unfold addNames
  induction new generalizing names with
  | nil => simp
  | cons name new ih =>
    rw [List.foldl_cons, ih, List.mem_cons]
    by_cases h : name ∈ names
    · rw [if_pos h, ← or_assoc]
      exact or_congr_left (or_iff_left_of_imp fun ht => ht ▸ h).symm
    · rw [if_neg h, List.mem_append, List.mem_singleton, or_assoc]

/-- A column to which rows give a type is among their columns. -/
theorem mem_columnNames_of_columnType? {rows : List Value} {t : JsonText} {type : ColumnType}
    (h : columnType? rows (.textual t) = some type) : t ∈ columnNames rows := by
  obtain ⟨row, hrow, hcell⟩ := List.exists_of_findSome?_eq_some h
  rw [columnNames, mem_addNames]
  refine .inr (List.mem_flatMap.2 ⟨row, hrow, ?_⟩)
  unfold cell at hcell
  split at hcell
  · rename_i entries
    cases hfound : entries.find? fun entry => entry.1.same (.textual t) with
    | none => simp [hfound, classify] at hcell
    | some entry =>
      have hsame : entry.1.same (.textual t) = true := by simpa using List.find?_some hfound
      have hkey := Scalar.same_textual_iff.1 hsame
      exact List.mem_map.2 ⟨entry, List.mem_of_find?_eq_some hfound, by rw [hkey]; rfl⟩
  · contradiction

/-- Rows give no type to keys other than their columns. -/
theorem givenType?_eq_none {rows : List Value} {key : Scalar}
    (h : ¬∃ t ∈ columnNames rows, key = .textual t) : givenType? rows key = none := by
  cases key with
  | textual t =>
    cases hgiven : columnType? rows (.textual t) with
    | none => exact hgiven
    | some type => exact absurd ⟨t, mem_columnNames_of_columnType? hgiven, rfl⟩ h
  | _ => rfl

namespace ColumnTypes

/-! ## Adding types -/

theorem type?_singleton (t : JsonText) (type : ColumnType) (key : Scalar) :
    type? [(.textual t, type)] key = if key = .textual t then some type else none := by
  have hsame := @Scalar.textual_same_iff t key
  by_cases hkey : key = .textual t
  · rw [if_pos hkey]
    simp [type?, hsame.2 hkey]
  · rw [if_neg hkey]
    simp [type?, mt hsame.1 hkey]

theorem type?_insertIfNew (types : ColumnTypes) (t : JsonText) (type : ColumnType) (key : Scalar) :
    (types.insertIfNew (.textual t) type).type? key =
      (types.type? key).or (type? [(.textual t, type)] key) := by
  unfold insertIfNew
  by_cases hknown : types.knows (.textual t) = true
  · rw [if_pos hknown, type?_singleton]
    by_cases hkey : key = .textual t
    · obtain ⟨known, hk⟩ := Option.isSome_iff_exists.1 hknown
      rw [hkey, hk, Option.some_or]
    · rw [if_neg hkey, Option.or_none]
  · rw [if_neg hknown, type?_append]

theorem type?_merge (types : ColumnTypes) {new : ColumnTypes}
    (hnew : ∀ entry ∈ new, ∃ t, entry.1 = .textual t) (key : Scalar) :
    (types.merge new).type? key = (types.type? key).or (new.type? key) := by
  induction new generalizing types with
  | nil => exact Option.or_none.symm
  | cons entry new ih =>
    obtain ⟨column, type⟩ := entry
    obtain ⟨⟨t, ht⟩, hrest⟩ := List.forall_mem_cons.1 hnew
    obtain rfl : column = .textual t := ht
    have hmerge : types.merge ((.textual t, type) :: new) =
        (types.insertIfNew (.textual t) type).merge new := rfl
    rw [hmerge, ih _ hrest, type?_insertIfNew, Option.or_assoc, ← type?_append]
    rfl

/-! ## Observing rows -/

theorem exists_textual_of_mem_typesIn {rows : List Value} {names : List JsonText}
    {entry : Scalar × ColumnType} (h : entry ∈ typesIn rows (names.map .textual)) :
    ∃ t, entry.1 = .textual t := by
  obtain ⟨column, hcolumn, htype⟩ := List.mem_filterMap.1 h
  obtain ⟨t, -, rfl⟩ := List.mem_map.1 hcolumn
  obtain ⟨type, -, rfl⟩ := Option.map_eq_some_iff.1 htype
  exact ⟨t, rfl⟩

theorem type?_typesIn (rows : List Value) (names : List JsonText) (key : Scalar) :
    (typesIn rows (names.map .textual)).type? key =
      if ∃ t ∈ names, key = .textual t then givenType? rows key else none := by
  induction names with
  | nil => simp [typesIn, type?]
  | cons t names ih =>
    have hcons : typesIn rows ((t :: names).map .textual) =
        ((columnType? rows (.textual t)).map fun type => (Scalar.textual t, type)).toList ++
          typesIn rows (names.map .textual) := by
      rw [typesIn, List.map_cons, List.filterMap_cons]
      cases columnType? rows (.textual t) <;> rfl
    have hhead : type? ((columnType? rows (.textual t)).map fun type => (Scalar.textual t, type)).toList key =
        if key = .textual t then givenType? rows key else none := by
      cases h : columnType? rows (.textual t) with
      | none => by_cases hkey : key = .textual t <;> simp [type?, givenType?, hkey, h]
      | some type =>
        rw [Option.map_some, Option.toList_some, type?_singleton]
        by_cases hkey : key = .textual t <;> simp [givenType?, hkey, h]
    rw [hcons, type?_append, ih, hhead]
    by_cases hkey : key = .textual t
    · have hmem : ∃ u ∈ t :: names, key = .textual u := ⟨t, List.mem_cons_self, hkey⟩
      rw [if_pos hkey, if_pos hmem]
      split
      · exact Option.or_self
      · exact Option.or_none
    · simp [hkey]

/-- **Observing rows gives types to columns that have none.** -/
theorem type?_observe (types : ColumnTypes) (rows : List Value) (key : Scalar) :
    (types.observe rows).type? key = (types.type? key).or (givenType? rows key) := by
  rw [observe_eq, unknownIn_eq, type?_merge types fun _ => exists_textual_of_mem_typesIn, type?_typesIn]
  cases htype : types.type? key with
  | some type => rfl
  | none =>
    rw [Option.none_or, Option.none_or]
    split
    · rfl
    · rename_i hnone
      refine (givenType?_eq_none ?_).symm
      rintro ⟨t, ht, rfl⟩
      refine hnone ⟨t, List.mem_filter.2 ⟨ht, ?_⟩, rfl⟩
      simp [knows, htype]

theorem type?_foldl_observe (types : ColumnTypes) (pages : List (List Value)) (key : Scalar) :
    (pages.foldl observe types).type? key = (types.type? key).or (givenType? pages.flatten key) := by
  induction pages generalizing types with
  | nil => cases key <;> simp [givenType?, columnType?]
  | cons rows pages ih =>
    rw [List.foldl_cons, ih, type?_observe, List.flatten_cons, givenType?_append, Option.or_assoc]

end ColumnTypes

end ODataBrowser
