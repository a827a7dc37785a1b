import ODataBrowser.Pager.Load
import ODataBrowser.Proofs.Query.Url
import ODataBrowser.Proofs.Value.Text

/-!
# What keeps a load from being planned

A load that is not planned has an argument that cannot be taken: a number that has no reading, a sort order that
lacks a column, or a filter whose field or value cannot be written (`Pager.isOfValue_of_plan`). No exchange with
the service plays a part in it.
-/

namespace ODataBrowser

/-- Whether a fault is about a value alone. -/
def Fault.isOfValue : Fault → Bool
  | .unreadable | .outOfRange | .wrongKind | .notText | .signalingComparison | .decimalOverflow
  | .tooDeep | .unencodable => true
  | _ => false

/-- A walk over a list that fails has the fault of one of its entries. -/
theorem Fault.exists_of_mapM_eq_error {α β : Type} {f : α → Except Fault β} {xs : List α} {fault : Fault}
    (h : xs.mapM f = .error fault) : ∃ x ∈ xs, f x = .error fault := by
  induction xs with
  | nil => contradiction
  | cons x rest ih =>
    rw [List.mapM_cons] at h
    rcases Fault.eq_error_of_bind h with hfirst | ⟨y, -, hrest⟩
    · exact ⟨x, List.mem_cons_self, hfirst⟩
    · rcases Fault.eq_error_of_bind hrest with hothers | ⟨ys, -, hnone⟩
      · obtain ⟨x', hmem, hx'⟩ := ih hothers
        exact ⟨x', List.mem_cons_of_mem x hmem, hx'⟩
      · contradiction

theorem Value.isOfValue_of_toInt {v : Value} {fault : Fault} (h : v.toInt = .error fault) :
    fault.isOfValue = true := by
  unfold toInt at h
  split at h
  · contradiction
  · contradiction
  · exact (Except.error.inj h) ▸ rfl
  · split at h
    · contradiction
    · exact (Except.error.inj h) ▸ rfl
  · unfold Decimal.truncate at h
    split at h
    · contradiction
    · exact (Except.error.inj h) ▸ rfl
    · exact (Except.error.inj h) ▸ rfl
  · split at h
    · contradiction
    · exact (Except.error.inj h) ▸ rfl
  · exact (Except.error.inj h) ▸ rfl

theorem Value.isOfValue_of_toKey {v : Value} {fault : Fault} (h : v.toKey = .error fault) :
    fault.isOfValue = true := by
  unfold toKey at h
  split at h
  · split at h
    · contradiction
    · exact (Except.error.inj h) ▸ rfl
  · exact (Except.error.inj h) ▸ rfl

theorem Value.isOfValue_of_checkText {room : Nat} {v : Value} {fault : Fault} (h : v.checkText room = .error fault) :
    fault.isOfValue = true := by
  rcases unreadable_or_tooDeep_of_checkText h with rfl | rfl <;> rfl

namespace Query

/-! ## Filters -/

theorem isOfValue_of_encodeNumber {v : Value} {fault : Fault} (h : encodeNumber v = .error fault) :
    fault.isOfValue = true := by
  unfold encodeNumber at h
  split at h
  · contradiction
  · exact Scalar.eq_unreadable_of_checkText (Fault.eq_error_of_map h) ▸ rfl
  · unfold encodeDecimal at h
    split at h
    · split at h
      · split at h
        · contradiction
        · exact (Except.error.inj h) ▸ rfl
      · contradiction
    · contradiction
  · contradiction
  · unfold encodeNumeral at h
    split at h
    · split at h <;> contradiction
    · exact (Except.error.inj h) ▸ rfl
    · contradiction

theorem isOfValue_of_encodeBoolean {v : Value} {fault : Fault} (h : encodeBoolean v = .error fault) :
    fault.isOfValue = true := by
  unfold encodeBoolean at h
  split at h
  · contradiction
  · contradiction
  · rename_i s _ _
    split at h
    · unfold Scalar.compare at h
      split at h
      · exact (Except.error.inj h) ▸ rfl
      · contradiction
    · contradiction
  · contradiction

theorem isOfValue_of_encodeDate {v : Value} {fault : Fault} (h : encodeDate v = .error fault) :
    fault.isOfValue = true := by
  unfold encodeDate at h
  split at h
  · contradiction
  · split at h
    · contradiction
    · exact (Except.error.inj h) ▸ rfl

theorem isOfValue_of_literalText {v : Value} {type : Option ColumnType} {fault : Fault}
    (h : literalText v type = .error fault) : fault.isOfValue = true := by
  unfold literalText at h
  split at h
  · exact isOfValue_of_encodeNumber (Fault.eq_error_of_map h)
  · exact isOfValue_of_encodeBoolean (Fault.eq_error_of_map h)
  · exact isOfValue_of_encodeDate (Fault.eq_error_of_map h)
  · unfold stringText at h
    split at h
    · contradiction
    · exact v.isOfValue_of_checkText (Fault.eq_error_of_map h)

theorem Filter.isOfValue_of_column? {types : ColumnTypes} {f : Filter} {fault : Fault}
    (h : f.column? types = .error fault) : fault.isOfValue = true := by
  unfold column? at h
  dsimp only at h
  split at h
  · contradiction
  · rcases Fault.eq_error_of_bind h with htype | ⟨type, -, hrest⟩
    · exact Value.isOfValue_of_toKey (Fault.eq_error_of_map htype)
    · split at hrest <;> contradiction

theorem Filter.isOfValue_of_clause? {types : ColumnTypes} {f : Filter} {fault : Fault}
    (h : f.clause? types = .error fault) : fault.isOfValue = true := by
  rcases Fault.eq_error_of_bind h with hcolumn | ⟨column?, -, hrest⟩
  · exact f.isOfValue_of_column? hcolumn
  · split at hrest
    · contradiction
    · rcases Fault.eq_error_of_bind hrest with hliteral | ⟨literal, -, hnone⟩
      · exact isOfValue_of_literalText hliteral
      · contradiction

theorem isOfValue_of_compileFilterText {types : ColumnTypes} {filters : List Filter} {fault : Fault}
    (h : compileFilterText types filters = .error fault) : fault.isOfValue = true := by
  rcases Fault.eq_error_of_bind h with hclauses | ⟨clauses, -, hnone⟩
  · obtain ⟨f, -, hclause⟩ := Fault.exists_of_mapM_eq_error hclauses
    exact f.isOfValue_of_clause? hclause
  · dsimp only at hnone
    split at hnone <;> contradiction

theorem isOfValue_of_describeFrom {entries : List (Scalar × Value)} {filters : List Filter} {fault : Fault}
    (h : describeFrom entries filters = .error fault) : fault.isOfValue = true := by
  induction filters generalizing entries with
  | nil => contradiction
  | cons f rest ih =>
    unfold describeFrom at h
    split at h
    · exact ih h
    · rcases Fault.eq_error_of_bind h with hkey | ⟨key, -, hrest⟩
      · exact Value.isOfValue_of_toKey hkey
      · exact ih hrest

/-! ## Sorts -/

theorem isOfValue_of_compileSorts {sorts : List (Option SortColumn)} {fault : Fault}
    (h : compileSorts sorts = .error fault) : fault.isOfValue = true := by
  obtain ⟨entry, -, hentry⟩ := Fault.exists_of_mapM_eq_error (Fault.eq_error_of_map h)
  cases entry with
  | none => exact (Except.error.inj hentry) ▸ rfl
  | some s => exact s.field.isOfValue_of_checkText (Fault.eq_error_of_map (Fault.eq_error_of_map hentry))

end Query

/-! ## Plans -/

namespace Pager

theorem isOfValue_of_plan {p : Pager} {arguments : LoadArguments} {fault : Fault}
    (h : p.plan arguments = .error fault) : fault.isOfValue = true := by
  rcases Fault.eq_error_of_bind h with hskip | ⟨skip, -, h⟩
  · exact Value.isOfValue_of_toInt hskip
  rcases Fault.eq_error_of_bind h with hsize | ⟨size, -, h⟩
  · exact Value.isOfValue_of_toInt hsize
  rcases Fault.eq_error_of_bind h with horder | ⟨orderBy, -, h⟩
  · exact Query.isOfValue_of_compileSorts horder
  rcases Fault.eq_error_of_bind h with hfilter | ⟨filter, -, h⟩
  · exact Query.isOfValue_of_compileFilterText hfilter
  contradiction

theorem isOfValue_of_target {arguments : LoadArguments} {fault : Fault}
    (h : target arguments = .error fault) : fault.isOfValue = true := by
  rcases Fault.eq_error_of_bind h with hnoted | ⟨noted, -, h⟩
  · exact Query.isOfValue_of_describeFrom hnoted
  · unfold Value.toJsonText at h
    split at h
    · contradiction
    · exact (Except.error.inj h) ▸ rfl

end Pager

end ODataBrowser
