import Mathlib.Data.List.Perm.Basic
import ODataBrowser.Proofs.Column.Growth

/-!
# Column types of batches

A type map names each column once (`ColumnTypes.IsMap`), so it is known by the types that it gives to keys. The map
that grows over batches of rows and the map of all these rows at once give the same types, and are therefore the
same but for the order of their entries (`ColumnTypes.sameMap_foldl_observe`): a column that is null at first comes
late into the one and keeps its place in the other.
-/

namespace ODataBrowser

/-! ## All rows at once -/

/-- The types of the rows where no column is known. -/
theorem inferColumnTypes_nil (rows : List Value) :
    inferColumnTypes [] rows = typesIn rows ((columnNames rows).map .textual) := by
  rw [inferColumnTypes, show addKeys [] ([] : List Scalar) = [] from rfl,
    addKeys_nil_textual (nodup_columnNames rows)]

namespace ColumnTypes

/-! ## Type maps as finite maps -/

/-- Whether the keys are texts, and each is listed once. -/
structure IsMap (types : ColumnTypes) : Prop where
  textual : ∀ entry ∈ types, ∃ t, entry.1 = .textual t
  nodup : (types.map (·.1)).Nodup

theorem isMap_nil : IsMap [] :=
  ⟨by simp, List.nodup_nil⟩

theorem mem_of_type? {types : ColumnTypes} (h : types.IsMap) {key : Scalar} {type : ColumnType}
    (htype : types.type? key = some type) : (key, type) ∈ types := by
  obtain ⟨entry, hfind, rfl⟩ := Option.map_eq_some_iff.1 htype
  have hentry := List.mem_of_find?_eq_some hfind
  obtain ⟨t, ht⟩ := h.textual entry hentry
  have hsame : (Scalar.textual t).same key = true := by
    have := List.find?_some hfind
    rwa [ht] at this
  rwa [Scalar.textual_same_iff.1 hsame, ← ht]

theorem knows_of_mem {types : ColumnTypes} {t : JsonText} {type : ColumnType}
    (h : (Scalar.textual t, type) ∈ types) : types.knows (.textual t) = true := by
  rw [knows, type?, Option.isSome_map, List.find?_isSome]
  exact ⟨_, h, Scalar.same_textual_iff.2 rfl⟩

/-- The entries of a map are the types that it gives. -/
theorem mem_iff_type? {types : ColumnTypes} (h : types.IsMap) {key : Scalar} {type : ColumnType} :
    (key, type) ∈ types ↔ types.type? key = some type := by
  refine ⟨fun hmem => ?_, mem_of_type? h⟩
  obtain ⟨t, rfl⟩ : ∃ t, key = .textual t := h.textual _ hmem
  obtain ⟨found, hfound⟩ := Option.isSome_iff_exists.1 (knows_of_mem hmem)
  have heq := List.inj_on_of_nodup_map h.nodup (mem_of_type? h hfound) hmem rfl
  rw [hfound, (Prod.mk.inj heq).2]

/-- Whether two lists of types are one finite map: they name each column once, have the same entries in one order or
another, and give the same types. -/
structure SameMap (types others : ColumnTypes) : Prop where
  isMap : types.IsMap
  perm : types.Perm others
  type?_eq : ∀ key, types.type? key = others.type? key

namespace SameMap

/-- Two maps that give the same types have the same entries. -/
theorem of_type?_eq {types others : ColumnTypes} (h : types.IsMap) (ho : others.IsMap)
    (heq : ∀ key, types.type? key = others.type? key) : SameMap types others := by
  refine ⟨h, ?_, heq⟩
  rw [List.perm_ext_iff_of_nodup h.nodup.of_map ho.nodup.of_map]
  rintro ⟨key, type⟩
  rw [mem_iff_type? h, mem_iff_type? ho, heq]

theorem symm {types others : ColumnTypes} (h : SameMap types others) : SameMap others types where
  isMap :=
    ⟨fun entry hentry => h.isMap.textual entry (h.perm.mem_iff.2 hentry), (h.perm.map _).nodup_iff.1 h.isMap.nodup⟩
  perm := h.perm.symm
  type?_eq key := (h.type?_eq key).symm

theorem trans {types others more : ColumnTypes} (h : SameMap types others) (ho : SameMap others more) :
    SameMap types more :=
  ⟨h.isMap, h.perm.trans ho.perm, fun key => (h.type?_eq key).trans (ho.type?_eq key)⟩

end SameMap

theorem isMap_insertIfNew {types : ColumnTypes} (h : types.IsMap) (t : JsonText) (type : ColumnType) :
    (types.insertIfNew (.textual t) type).IsMap := by
  unfold insertIfNew
  split
  · exact h
  · rename_i hnew
    have hkey : Scalar.textual t ∉ types.map (·.1) := by
      intro hmem
      obtain ⟨⟨key, known⟩, hentry, rfl⟩ := List.mem_map.1 hmem
      exact hnew (knows_of_mem hentry)
    constructor
    · intro entry hentry
      rcases List.mem_append.1 hentry with hentry | hentry
      · exact h.textual entry hentry
      · exact ⟨t, congrArg Prod.fst (List.mem_singleton.1 hentry)⟩
    · rw [List.map_append]
      exact List.concat_eq_append ▸ h.nodup.concat hkey

theorem isMap_merge {types : ColumnTypes} (h : types.IsMap) {new : ColumnTypes}
    (hnew : ∀ entry ∈ new, ∃ t, entry.1 = .textual t) : (types.merge new).IsMap := by
  induction new generalizing types with
  | nil => exact h
  | cons entry new ih =>
    obtain ⟨column, type⟩ := entry
    obtain ⟨⟨t, ht⟩, hrest⟩ := List.forall_mem_cons.1 hnew
    obtain rfl : column = .textual t := ht
    exact ih (isMap_insertIfNew h t type) hrest

theorem isMap_typesIn (rows : List Value) {names : List JsonText} (h : names.Nodup) :
    IsMap (typesIn rows (names.map .textual)) := by
  have hkeys : (typesIn rows (names.map .textual)).map (·.1) =
      (names.map Scalar.textual).filter fun key => (columnType? rows key).isSome := by
    rw [typesIn, List.map_filterMap, ← List.filterMap_eq_filter]
    refine List.filterMap_congr fun key _ => ?_
    cases hkey : columnType? rows key <;> simp [Option.guard, hkey]
  refine ⟨fun entry => exists_textual_of_mem_typesIn, ?_⟩
  rw [hkeys]
  exact (h.map fun _ _ => Scalar.textual.inj).filter _

theorem isMap_observe {types : ColumnTypes} (h : types.IsMap) (rows : List Value) :
    (types.observe rows).IsMap := by
  rw [observe_eq, unknownIn_eq]
  exact isMap_merge h fun _ => exists_textual_of_mem_typesIn

theorem isMap_foldl_observe {types : ColumnTypes} (h : types.IsMap) (batches : List (List Value)) :
    (batches.foldl observe types).IsMap := by
  induction batches generalizing types with
  | nil => exact h
  | cons rows batches ih => exact ih (isMap_observe h rows)

theorem isMap_inferColumnTypes (rows : List Value) : IsMap (inferColumnTypes [] rows) := by
  rw [inferColumnTypes_nil]
  exact isMap_typesIn rows (nodup_columnNames rows)

theorem type?_inferColumnTypes (rows : List Value) (key : Scalar) :
    (inferColumnTypes [] rows).type? key = givenType? rows key := by
  rw [inferColumnTypes_nil, type?_typesIn]
  split
  · rfl
  · exact (givenType?_eq_none ‹_›).symm

theorem type?_foldl_observe_nil (batches : List (List Value)) (key : Scalar) :
    type? (batches.foldl observe []) key = (inferColumnTypes [] batches.flatten).type? key := by
  rw [type?_foldl_observe, type?_inferColumnTypes]
  exact Option.none_or

/-- **Rows that are observed in batches have the types that they have together.** -/
theorem sameMap_foldl_observe (batches : List (List Value)) :
    SameMap (batches.foldl observe []) (inferColumnTypes [] batches.flatten) :=
  .of_type?_eq (isMap_foldl_observe isMap_nil batches) (isMap_inferColumnTypes _) (type?_foldl_observe_nil batches)

end ColumnTypes

end ODataBrowser
