import Mathlib.Algebra.Order.Ring.Int
import ODataBrowser.Proofs.Json.Text
import ODataBrowser.Query.Url

/-!
# The URL of a query

A query has a URL unless one of its numbers is too long to be written or one of its texts has a lone surrogate
(`PageQuery.exists_toUrl_iff_forall`), and that is then the fault (`PageQuery.fault_of_toUrl`). The counting option
comes last: the URL of a query is that of the query without it, followed by the option
(`PageQuery.toUrl_eq_map_append`).
-/

namespace ODataBrowser.Query

open Text

/-! ## Numeric options -/

/-- Whether a number can be written as the value of an option: one with more digits cannot. -/
def IsWritable (n : Int) : Prop :=
  n < (tenPow Numeral.maxDigits : Nat)

theorem isWritable_of_nonpos {n : Int} (h : n ≤ 0) : IsWritable n :=
  lt_of_le_of_lt h (Int.natCast_pos.2 (tenPow_pos _))

theorem isWritable_max_zero {n : Int} : IsWritable (max n 0) ↔ IsWritable n := by
  rcases le_total n 0 with h | h
  · rw [max_eq_right h]
    exact iff_of_true (isWritable_of_nonpos le_rfl) (isWritable_of_nonpos h)
  · rw [max_eq_left h]

theorem numericOption_of_writable (name : String) {n : Int} (h : IsWritable n) :
    ∃ options, numericOption name (some n) = .ok options := by
  have hn : ¬((tenPow Numeral.maxDigits : Nat) : Int) ≤ n := not_le.2 h
  by_cases hpos : 0 < n
  · exact ⟨_, by simp only [numericOption, numberText, if_pos hpos, if_neg hn, Except.map]; rfl⟩
  · exact ⟨[], by simp only [numericOption, if_neg hpos]⟩

theorem numericOption_of_not_writable (name : String) {n : Int} (h : ¬IsWritable n) :
    numericOption name (some n) = .error .unreadable := by
  have hpos : 0 < n := by
    by_contra hn
    exact h (isWritable_of_nonpos (not_lt.1 hn))
  have hn : ((tenPow Numeral.maxDigits : Nat) : Int) ≤ n := not_lt.1 h
  simp only [numericOption, numberText, if_pos hpos, if_pos hn, Except.map]

theorem exists_numericOption_iff (name : String) {n? : Option Int} :
    (∃ options, numericOption name n? = .ok options) ↔ ∀ n ∈ n?, IsWritable n := by
  cases n? with
  | none => simp [numericOption]
  | some n =>
    by_cases h : IsWritable n
    · exact iff_of_true (numericOption_of_writable name h) (by simpa using h)
    · exact iff_of_false (by simp [numericOption_of_not_writable name h]) (by simpa using h)

theorem eq_unreadable_of_numericOption {name : String} {n? : Option Int} {fault : Fault}
    (h : numericOption name n? = .error fault) : fault = .unreadable := by
  cases n? with
  | none => simp [numericOption] at h
  | some n =>
    by_cases hn : IsWritable n
    · obtain ⟨options, ho⟩ := numericOption_of_writable name hn
      simp [ho] at h
    · rw [numericOption_of_not_writable name hn] at h
      exact (Except.error.inj h).symm

/-! ## Text options -/

theorem exists_textOption_iff (name : String) {t? : Option JsonText} :
    (∃ options, textOption name t? = .ok options) ↔ ∀ t ∈ t?, t.isString = true := by
  match t? with
  | none => exact iff_of_true ⟨[], rfl⟩ nofun
  | some (.string s) => exact iff_of_true ⟨_, rfl⟩ fun t ht => by rw [← Option.some.inj ht]; rfl
  | some (.broken before first after) => exact iff_of_false nofun fun h => nomatch h _ rfl

theorem isString_of_map_string (s? : Option String) : ∀ t ∈ s?.map JsonText.string, t.isString = true := by
  intro t ht
  obtain ⟨s, -, rfl⟩ := Option.mem_map.1 ht
  rfl

theorem eq_unencodable_of_textOption {name : String} {t? : Option JsonText} {fault : Fault}
    (h : textOption name t? = .error fault) : fault = .unencodable := by
  match t? with
  | none | some (.string _) => contradiction
  | some (.broken ..) => exact (Except.error.inj h).symm

namespace PageQuery

/-! ## The options of a query -/

/-- The query without its counting option. -/
def uncounted (q : PageQuery) : PageQuery :=
  { q with count := none }

/-- The counting option among the options of a query. -/
def countPart (count : Option (String × String)) : List (List Char) :=
  (count.map fun (name, value) => name.toList ++ '=' :: value.toList).toList

/-- The counting option as the end of a URL. -/
def countSuffix : Option (String × String) → String
  | none => ""
  | some (name, value) => "&" ++ name ++ "=" ++ value

/-- The options of a query are those of its numbers and texts, and its counting option. -/
theorem options_eq_ok {q : PageQuery} {options : List (List Char)} (h : q.options = .ok options) :
    ∃ top skip orderBy filter, numericOption "$top" q.top = .ok top ∧ numericOption "$skip" q.skip = .ok skip ∧
      textOption "$orderby" q.orderBy = .ok orderBy ∧ textOption "$filter" q.filter = .ok filter ∧
      options = "$format=json".toList :: (top ++ skip ++ orderBy ++ filter ++ countPart q.count) := by
  obtain ⟨top, htop, h⟩ := Fault.exists_of_bind_eq_ok h
  obtain ⟨skip, hskip, h⟩ := Fault.exists_of_bind_eq_ok h
  obtain ⟨orderBy, horder, h⟩ := Fault.exists_of_bind_eq_ok h
  obtain ⟨filter, hfilter, h⟩ := Fault.exists_of_bind_eq_ok h
  exact ⟨top, skip, orderBy, filter, htop, hskip, horder, hfilter, (Except.ok.inj h).symm⟩

/-- Whether the sort order and the filter of a query, where it has them, are strings. -/
def HasStrings (q : PageQuery) : Prop :=
  (∀ t ∈ q.orderBy, t.isString = true) ∧ ∀ t ∈ q.filter, t.isString = true

/-- What keeps a query from having options is a number that cannot be written, or a text that is no string. -/
theorem fault_of_options {q : PageQuery} {fault : Fault} (h : q.options = .error fault) :
    fault = .unreadable ∨ fault = .unencodable ∧ ¬q.HasStrings := by
  have hbroken {name : String} {t? : Option JsonText} (h : textOption name t? = .error fault) :
      fault = .unencodable ∧ ¬∀ t ∈ t?, t.isString = true := by
    refine ⟨eq_unencodable_of_textOption h, fun hstring => ?_⟩
    obtain ⟨options, hoptions⟩ := (exists_textOption_iff name).2 hstring
    exact absurd (h.symm.trans hoptions) nofun
  rcases Fault.eq_error_of_bind h with htop | ⟨top, -, h⟩
  · exact .inl (eq_unreadable_of_numericOption htop)
  rcases Fault.eq_error_of_bind h with hskip | ⟨skip, -, h⟩
  · exact .inl (eq_unreadable_of_numericOption hskip)
  rcases Fault.eq_error_of_bind h with horder | ⟨orderBy, -, h⟩
  · exact .inr ((hbroken horder).imp_right fun hnot hstrings => hnot hstrings.1)
  rcases Fault.eq_error_of_bind h with hfilter | ⟨filter, -, h⟩
  · exact .inr ((hbroken hfilter).imp_right fun hnot hstrings => hnot hstrings.2)
  contradiction

/-- A query has options just if its numbers can be written and its texts are strings. -/
theorem exists_options_iff (q : PageQuery) :
    (∃ options, q.options = .ok options) ↔
      (∀ n ∈ q.top, IsWritable n) ∧ (∀ n ∈ q.skip, IsWritable n) ∧ q.HasStrings := by
  rw [HasStrings, ← exists_numericOption_iff "$top", ← exists_numericOption_iff "$skip", ← exists_textOption_iff "$orderby",
    ← exists_textOption_iff "$filter"]
  constructor
  · rintro ⟨options, h⟩
    obtain ⟨top, skip, orderBy, filter, htop, hskip, horder, hfilter, -⟩ := options_eq_ok h
    exact ⟨⟨top, htop⟩, ⟨skip, hskip⟩, ⟨orderBy, horder⟩, filter, hfilter⟩
  · rintro ⟨⟨top, htop⟩, ⟨skip, hskip⟩, ⟨orderBy, horder⟩, filter, hfilter⟩
    unfold options
    rw [htop, hskip, horder, hfilter]
    exact ⟨_, rfl⟩

theorem options_eq_map_append (q : PageQuery) :
    q.options = q.uncounted.options.map (· ++ countPart q.count) := by
  unfold options uncounted countPart
  cases numericOption "$top" q.top with
  | error => rfl
  | ok top =>
    cases numericOption "$skip" q.skip with
    | error => rfl
    | ok skip =>
      cases textOption "$orderby" q.orderBy with
      | error => rfl
      | ok orderBy =>
        cases textOption "$filter" q.filter with
        | error => rfl
        | ok filter => simp [bind, Except.bind, pure, Except.pure, Except.map]

theorem options_ne_nil {q : PageQuery} {options : List (List Char)} (h : q.options = .ok options) :
    options ≠ [] := by
  obtain ⟨top, skip, orderBy, filter, -, -, -, -, rfl⟩ := options_eq_ok h
  exact List.cons_ne_nil _ _

/-! ## The URL -/

theorem joinWith_append_singleton (separator last : List Char) {parts : List (List Char)}
    (h : parts ≠ []) :
    joinWith separator (parts ++ [last]) = joinWith separator parts ++ separator ++ last := by
  induction parts with
  | nil => exact absurd rfl h
  | cons part rest ih =>
    cases rest with
    | nil => simp [joinWith]
    | cons part' rest =>
      simp only [List.cons_append, joinWith] at ih ⊢
      rw [ih (List.cons_ne_nil _ _)]
      simp only [List.append_assoc]

theorem withOptions_append (url : JsonText) (hasQuery : Bool) {options : List (List Char)}
    (h : options ≠ []) (count : Option (String × String)) :
    withOptions url hasQuery (options ++ countPart count) =
      withOptions url hasQuery options ++ countSuffix count := by
  cases count with
  | none => rw [countPart, countSuffix, JsonText.append_empty]; simp
  | some pair =>
    unfold withOptions
    rw [JsonText.append_assoc]
    refine congrArg (url ++ ·) (congrArg JsonText.string (String.toList_inj.1 ?_))
    simp [countPart, countSuffix, joinWith_append_singleton _ _ h]

/-- **The counting option ends the URL**, and nothing else in the URL depends on it. -/
theorem toUrl_eq_map_append (q : PageQuery) (url : JsonText) :
    q.toUrl url = (q.uncounted.toUrl url).map fun (u : JsonText) => u ++ countSuffix q.count := by
  unfold toUrl
  rw [options_eq_map_append]
  cases h : q.uncounted.options with
  | error => rfl
  | ok options =>
    simp only [Except.map]
    rw [withOptions_append _ _ (options_ne_nil h)]

/-- A query has a URL just if its size and its offset, where it has them, can be written, and its sort order and its
filter, where it has them, are strings. -/
theorem exists_toUrl_iff_forall (q : PageQuery) (url : JsonText) :
    (∃ u, q.toUrl url = .ok u) ↔ (∀ n ∈ q.top, IsWritable n) ∧ (∀ n ∈ q.skip, IsWritable n) ∧ q.HasStrings := by
  rw [← exists_options_iff]
  unfold toUrl
  cases q.options with
  | error => exact iff_of_false nofun nofun
  | ok options => exact iff_of_true ⟨_, rfl⟩ ⟨_, rfl⟩

/-- A query with a size, an offset and a string to sort by has a URL just if both numbers can be written and its filter
is a string. -/
theorem exists_toUrl_iff {q : PageQuery} {top skip : Int} {orderBy : Option String} (htop : q.top = some top)
    (hskip : q.skip = some skip) (horder : q.orderBy = orderBy.map .string) (url : JsonText) :
    (∃ u, q.toUrl url = .ok u) ↔ IsWritable top ∧ IsWritable skip ∧ ∀ t ∈ q.filter, t.isString = true := by
  have hstring : ∀ t ∈ q.orderBy, t.isString = true := horder ▸ isString_of_map_string orderBy
  rw [exists_toUrl_iff_forall, HasStrings, htop, hskip, and_iff_right hstring]
  simp

theorem fault_of_toUrl {q : PageQuery} {url : JsonText} {fault : Fault}
    (h : q.toUrl url = .error fault) : fault = .unreadable ∨ fault = .unencodable ∧ ¬q.HasStrings :=
  fault_of_options (Fault.eq_error_of_map h)

end PageQuery

end ODataBrowser.Query
