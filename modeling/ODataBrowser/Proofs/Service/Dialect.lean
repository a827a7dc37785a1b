import Mathlib.Data.List.Permutation
import ODataBrowser.Proofs.Service.Paging

/-!
# The dialects of pages

Services of different versions put the rows of a page and the total into different fields. `Envelope.IsDialect` lists
the payloads in which they do so. The page that is read from a payload is the same in all of them
(`Page.ofPayload_of_isDialect`), and so is that of a response with such a payload (`Page.ofOutcome_of_isPage`).
-/

namespace ODataBrowser

open Text

namespace Envelope

variable {rows : List Value} {n : Nat} {total? : Option Nat} {v payload : Value}

/-! ## Payloads -/

/-- Whether a value writes a number of rows, as an integer or as its numeral. -/
inductive Writes (n : Nat) : Value → Prop where
  | integer : Writes n (.int n)
  | numeral : Writes n (.text (String.ofList (Numeral.ofNat n)))

/-- Whether a payload holds some rows in the way of a service, and the total if there is one. The order of the fields
is all the same. -/
inductive IsDialect (rows : List Value) : (total? : Option Nat) → (payload : Value) → Prop where
  /-- An object with the rows as its `value`, and the total in the field of its version. -/
  | counted {n : Nat} {name : String} {v : Value} {fields : List (String × Value)}
      (version : name = "@odata.count" ∨ name = "odata.count" ∨ name = "count") (writes : Writes n v)
      (has : fields.Perm [("value", .list rows), (name, v)]) : IsDialect rows (some n) (.ofFields fields)
  /-- An object `d` with the rows as its `results`, and the total. -/
  | countedResults {n : Nat} {v : Value} {fields : List (String × Value)} (writes : Writes n v)
      (has : fields.Perm [("results", .list rows), ("__count", v)]) :
      IsDialect rows (some n) (.ofFields [("d", .ofFields fields)])
  | value : IsDialect rows none (.ofFields [("value", .list rows)])
  | results : IsDialect rows none (.ofFields [("d", .ofFields [("results", .list rows)])])
  | array : IsDialect rows none (.list rows)

theorem Writes.isTotal (h : Writes n v) (hn : n ≤ 2 ^ 53) : IsTotal n v := by
  cases h with
  | integer => exact .inl ⟨rfl, lt_of_le_of_lt hn (by decide +kernel)⟩
  | numeral => exact .inr ⟨.inr rfl, hn⟩

theorem holds_of_isDialect (h : IsDialect rows total? payload) : Holds payload rows := by
  cases h with
  | @counted n name v fields version writes has =>
    left
    rcases List.perm_pair.1 has with rfl | rfl <;> rcases version with rfl | rfl | rfl <;> rfl
  | @countedResults n v fields writes has =>
    right; left
    rcases List.perm_pair.1 has with rfl | rfl <;> exact ⟨rfl, rfl⟩
  | value => exact .inl rfl
  | results => exact .inr (.inl ⟨rfl, rfl⟩)
  | array => exact .inr (.inr rfl)

/-- A total that stands in one field, while the others are missing, is found. -/
theorem total_of_field {i : Nat} (hi : i < 4) (hfields : totalFields payload = (List.replicate 4 .null).set i v)
    (hv : IsTotal n v) : Envelope.total payload = .ok (some n) := by
  have hagrees : AgreesOn payload n := by
    intro w hw
    rw [hfields] at hw
    rcases List.mem_or_eq_of_mem_set hw with hnull | rfl
    · rw [List.eq_of_mem_replicate hnull]
      exact .inl rfl
    · exact .inr hv
  have hcounts : Counts payload n := ⟨v, by rw [hfields]; exact List.mem_set (by simpa using hi) v, hv⟩
  obtain ⟨total, htotal, -, hsome⟩ := total_of_agreesOn hagrees
  rw [htotal, hsome hcounts]

/-- The total of a payload is the one that is written, in whatever field. -/
theorem total_of_isDialect (h : IsDialect rows total? payload) (hsmall : ∀ n ∈ total?, n ≤ 2 ^ 53) :
    Envelope.total payload = .ok (total?.map Int.ofNat) := by
  cases h with
  | @counted n name v fields version writes has =>
    have hv := writes.isTotal (hsmall n rfl)
    rcases version with rfl | rfl | rfl
    · exact total_of_field (i := 0) (by decide) (by rcases List.perm_pair.1 has with rfl | rfl <;> rfl) hv
    · exact total_of_field (i := 1) (by decide) (by rcases List.perm_pair.1 has with rfl | rfl <;> rfl) hv
    · exact total_of_field (i := 2) (by decide) (by rcases List.perm_pair.1 has with rfl | rfl <;> rfl) hv
  | @countedResults n v fields writes has =>
    have hv := writes.isTotal (hsmall n rfl)
    exact total_of_field (i := 3) (by decide) (by rcases List.perm_pair.1 has with rfl | rfl <;> rfl) hv
  | value => rfl
  | results => rfl
  | array => rfl

end Envelope

/-! ## Responses -/

/-- The page that is read from a payload depends on the rows and the total only. -/
theorem Page.ofPayload_of_isDialect {rows : List Value} {total? : Option Nat} {payload : Value}
    (h : Envelope.IsDialect rows total? payload) (hsmall : ∀ n ∈ total?, n ≤ 2 ^ 53) (url : JsonText) :
    ofPayload payload url = .ok ⟨rows, total?.map Int.ofNat, url⟩ := by
  have hholds := Envelope.holds_of_isDialect h
  rw [ofPayload, isWrapped_of_holds hholds, Envelope.rows_of_holds hholds, Envelope.total_of_isDialect h hsmall]
  rfl

/-- Whether a response is a JSON page of some rows, with the total if there is one. -/
structure Response.IsPage (r : Response) (rows : List Value) (total? : Option Nat) : Prop where
  status : 200 ≤ r.status ∧ r.status < 300
  json : ∃ contentType, r.contentType.toTextOrEmpty = .ok contentType ∧
    occurs "json".toList (lowercase contentType.toList) = true
  dialect : ∃ payload, Json.read? r.body = .ok (some payload) ∧ Envelope.IsDialect rows total? payload

theorem Page.ofOutcome_of_isPage {r : Response} {rows : List Value} {total? : Option Nat} (h : r.IsPage rows total?)
    (hsmall : ∀ n ∈ total?, n ≤ 2 ^ 53) (url : JsonText) :
    ofOutcome (.response r) url = .ok ⟨rows, total?.map Int.ofNat, url⟩ := by
  obtain ⟨⟨-, hstatus⟩, hjson, payload, hread, hdialect⟩ := h
  rw [ofOutcome_of_no_error (by omega), Response.payload_of_decodes ⟨hjson, hread⟩]
  exact ofPayload_of_isDialect hdialect hsmall url

end ODataBrowser
