import Mathlib.Data.List.Nodup
import ODataBrowser.Column.TypeMap

/-!
# Observing rows

Rows that are observed are only looked at where they have a column without a type, and then the types of all their
columns are inferred. The columns that have a type keep it. So just the types of the others are added
(`ColumnTypes.observe_eq`).
-/

namespace ODataBrowser

/-! ## Names listed once -/

theorem addNames_cons (names : List JsonText) (name : JsonText) (new : List JsonText) :
    addNames names (name :: new) = addNames (if name ∈ names then names else names ++ [name]) new :=
  rfl

theorem nodup_addNames {names : List JsonText} (h : names.Nodup) (new : List JsonText) :
    (addNames names new).Nodup := by
  induction new generalizing names with
  | nil => exact h
  | cons name new ih =>
    rw [addNames_cons]
    apply ih
    split
    · exact h
    · rename_i hname
      exact List.concat_eq_append ▸ h.concat hname

theorem nodup_columnNames (rows : List Value) : (columnNames rows).Nodup :=
  nodup_addNames List.nodup_nil _

/-- Of names that are listed once, those are added that are not there. -/
theorem addNames_of_nodup {new : List JsonText} (h : new.Nodup) (names : List JsonText) :
    addNames names new = names ++ new.filter (· ∉ names) := by
  induction new generalizing names with
  | nil => exact (List.append_nil names).symm
  | cons name new ih =>
    obtain ⟨hname, hnew⟩ := List.nodup_cons.1 h
    rw [addNames_cons, ih hnew]
    by_cases hmem : name ∈ names
    · rw [if_pos hmem, List.filter_cons_of_neg (by simpa using hmem)]
    · have hrest : new.filter (· ∉ names ++ [name]) = new.filter (· ∉ names) :=
        List.filter_congr fun other hother => by
          have hne : other ≠ name := fun heq => hname (heq ▸ hother)
          simp [hne]
      rw [if_neg hmem, List.filter_cons_of_pos (by simpa using hmem), hrest, List.append_assoc,
        List.singleton_append]

/-- Texts as keys are added as names are. -/
theorem addKeys_textual (names new : List JsonText) :
    addKeys (names.map .textual) (new.map .textual) = (addNames names new).map .textual := by
  induction new generalizing names with
  | nil => rfl
  | cons name new ih =>
    have hany : (names.map Scalar.textual).any (·.same (.textual name)) = decide (name ∈ names) := by
      rw [Bool.eq_iff_iff, decide_eq_true_iff]
      simp [Scalar.same_textual_iff]
    rw [addNames_cons, ← ih, List.map_cons, addKeys, List.foldl_cons, hany, ← addKeys]
    by_cases hmem : name ∈ names <;> simp [hmem]

theorem addKeys_nil_textual {names : List JsonText} (h : names.Nodup) :
    addKeys [] (names.map .textual) = names.map .textual := by
  have hadd := addKeys_textual [] names
  rwa [addNames_of_nodup h, List.nil_append, List.filter_eq_self.2 (by simp)] at hadd

namespace ColumnTypes

/-! ## Columns with a type -/

theorem type?_append (types new : ColumnTypes) (key : Scalar) :
    type? (types ++ new) key = (types.type? key).or (new.type? key) := by
  rw [type?, List.find?_append]
  cases h : types.find? fun entry => entry.1.same key <;> simp [type?, h]

theorem knows_insertIfNew {types : ColumnTypes} {key : Scalar} (h : types.knows key = true) (column : Scalar)
    (type : ColumnType) : (types.insertIfNew column type).knows key = true := by
  unfold insertIfNew
  split
  · exact h
  · rw [knows, type?_append, Option.isSome_or, ← knows, h, Bool.true_or]

theorem knows_merge {types : ColumnTypes} {key : Scalar} (h : types.knows key = true) (new : ColumnTypes) :
    (types.merge new).knows key = true := by
  induction new generalizing types with
  | nil => exact h
  | cons entry new ih => exact ih (knows_insertIfNew h entry.1 entry.2)

theorem merge_of_known {types new : ColumnTypes} (h : ∀ entry ∈ new, types.knows entry.1 = true) :
    types.merge new = types := by
  induction new with
  | nil => rfl
  | cons entry new ih =>
    obtain ⟨hentry, hrest⟩ := List.forall_mem_cons.1 h
    have hstep : types.merge (entry :: new) = (types.insertIfNew entry.1 entry.2).merge new := rfl
    rw [hstep, insertIfNew, if_pos hentry, ih hrest]

/-! ## Columns without a type -/

theorem unknownIn_eq (types : ColumnTypes) (rows : List Value) :
    types.unknownIn rows = ((columnNames rows).filter fun t => !types.knows (.textual t)).map .textual := by
  rw [unknownIn, List.filter_map]
  rfl

/-- **Observing rows adds the types of the columns that have none.** To infer the types of the other columns too changes
nothing, since those keep the types that they have. -/
theorem observe_eq (types : ColumnTypes) (rows : List Value) :
    types.observe rows = types.merge (typesIn rows (types.unknownIn rows)) := by
  by_cases hempty : (types.unknownIn rows).isEmpty = true
  · rw [observe, if_pos hempty, List.isEmpty_iff.1 hempty]
    rfl
  · rw [observe, if_neg hempty, inferColumnTypes, unknownIn_eq]
    set unknown := (columnNames rows).filter fun t => !types.knows (.textual t)
    have hunknown : unknown.Nodup := (nodup_columnNames rows).filter _
    rw [addKeys_nil_textual hunknown, addKeys_textual, addNames_of_nodup (nodup_columnNames rows), List.map_append,
      typesIn, typesIn, List.filterMap_append, merge, merge, List.foldl_append, ← merge, ← merge]
    refine merge_of_known fun entry hentry => knows_merge ?_ _
    obtain ⟨key, hkey, hentry⟩ := List.mem_filterMap.1 hentry
    obtain ⟨type, -, rfl⟩ := Option.map_eq_some_iff.1 hentry
    obtain ⟨t, ht, rfl⟩ := List.mem_map.1 hkey
    obtain ⟨ht, hknown⟩ := List.mem_filter.1 ht
    by_contra hnew
    exact of_decide_eq_true hknown (List.mem_filter.2 ⟨ht, by simpa using hnew⟩)

end ColumnTypes

end ODataBrowser
