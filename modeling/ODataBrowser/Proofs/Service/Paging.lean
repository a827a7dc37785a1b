import ODataBrowser.Proofs.Number.Numeral
import ODataBrowser.Proofs.Pager.Attempts
import ODataBrowser.Proofs.Query.Options
import ODataBrowser.Proofs.Service.Decoding

/-!
# Services that answer with pages

A service with a list of rows answers the request for a page with the rows that the size and the offset in its URL
select, in one of three envelopes, or by rejecting the counting option of the request (`Serves`). Its answer to a
plain query is a page of these rows, with the total if the query asks for it, or it makes the pager step down
(`Serves.page_or_rejects`).
-/

namespace ODataBrowser

open Query Text

/-! ## Envelopes -/

namespace Envelope

/-- Whether a value gives a number of rows: as an integer that has a nearest double, or as the double or the numeral
of a number that is a double. -/
def IsTotal (n : Nat) (v : Value) : Prop :=
  v = .int n ∧ n < 2 ^ 1024 - 2 ^ 970 ∨
  (v = .float (.ofRatio false n 1) ∨ v = .text (String.ofList (Numeral.ofNat n))) ∧ n ≤ 2 ^ 53

theorem count?_of_isTotal {n : Nat} {v : Value} (h : IsTotal n v) : count? v = .ok (some n) := by
  rcases h with ⟨rfl, hrange⟩ | ⟨rfl | rfl, hexact⟩
  · rw [count?]
    cases hdouble : Binary64.ofInt? n with
    | none => exact absurd ((Binary64.ofInt?_eq_none_iff n).1 hdouble) (Nat.not_le.2 hrange)
    | some x => rfl
  · rw [count?, Binary64.truncate?_ofRatio hexact]
  · rw [count?, String.toList_ofList, Numeral.truncate?_of_ofNat hexact]

/-- Whether a payload holds the rows: in the array `value`, in `d.results` or as a bare array. -/
def Holds (payload : Value) (rows : List Value) : Prop :=
  payload.field "value" = .list rows ∨
  items? (payload.field "value") = none ∧ (payload.field "d").field "results" = .list rows ∨
  payload = .list rows

/-- Whether no field of a payload gives another total. -/
def AgreesOn (payload : Value) (n : Nat) : Prop :=
  ∀ v ∈ totalFields payload, count? v = .ok none ∨ IsTotal n v

/-- Whether a payload gives the total. -/
def Counts (payload : Value) (n : Nat) : Prop :=
  ∃ v ∈ totalFields payload, IsTotal n v

theorem rows_of_holds {payload : Value} {rows : List Value} (h : Holds payload rows) :
    Envelope.rows payload = rows := by
  unfold Envelope.rows
  rcases h with hvalue | ⟨hnone, hresults⟩ | rfl
  · rw [hvalue]
    rfl
  · rw [hnone, hresults]
    rfl
  · rfl

theorem firstCount_of_agree {n : Nat} {vs : List Value} (h : ∀ v ∈ vs, count? v = .ok none ∨ IsTotal n v) :
    firstCount vs = .ok (some n) ∨ firstCount vs = .ok none ∧ ∀ v ∈ vs, count? v = .ok none := by
  induction vs with
  | nil => exact .inr ⟨rfl, by simp⟩
  | cons v rest ih =>
    rw [List.forall_mem_cons] at h
    rcases h.1 with hnone | htotal
    · have hrest : firstCount (v :: rest) = firstCount rest := by
        rw [firstCount, hnone]
        rfl
      rw [hrest]
      exact (ih h.2).imp_right fun ⟨hfirst, hnones⟩ => ⟨hfirst, List.forall_mem_cons.2 ⟨hnone, hnones⟩⟩
    · rw [firstCount, count?_of_isTotal htotal]
      exact .inl rfl

/-- A payload that agrees on a total gives it or none. -/
theorem total_of_agreesOn {payload : Value} {n : Nat} (h : AgreesOn payload n) :
    ∃ total, Envelope.total payload = .ok total ∧ (total = none ∨ total = some (n : Int)) ∧
      (Counts payload n → total = some (n : Int)) := by
  rcases firstCount_of_agree h with hcount | ⟨hfirst, hnones⟩
  · exact ⟨some n, hcount, .inr rfl, fun _ => rfl⟩
  · refine ⟨none, hfirst, .inl rfl, ?_⟩
    rintro ⟨v, hv, htotal⟩
    have hcount := (hnones v hv).symm.trans (count?_of_isTotal htotal)
    cases hcount

end Envelope

/-- A payload with a third field is not like a wrapped body. -/
theorem Page.isWrapped_of_field {payload : Value} {name : String} (hraw : name ≠ "raw")
    (htype : name ≠ "content_type") (h : payload.field name ≠ .null) : isWrapped payload = false := by
  rw [Bool.eq_false_iff, ne_eq, isWrapped_iff]
  rintro ⟨raw, contentType, fields, hperm, rfl⟩
  refine h ?_
  rcases List.perm_pair.1 hperm with rfl | rfl <;>
    simp [Value.field, Value.lookup?, Value.ofFields, hraw.symm, htype.symm]

theorem Page.isWrapped_of_holds {payload : Value} {rows : List Value} (h : Envelope.Holds payload rows) :
    isWrapped payload = false := by
  rcases h with hvalue | ⟨-, hresults⟩ | rfl
  · exact @isWrapped_of_field payload "value" (by decide) (by decide) (by simp [hvalue])
  · refine @isWrapped_of_field payload "d" (by decide) (by decide) fun h => ?_
    rw [h] at hresults
    cases hresults
  · rfl

/-! ## Answers -/

/-- Whether an outcome is the page of some rows that a size and an offset select, with the total if it counts. -/
def Outcome.IsPageOf (outcome : Outcome) (data : List Value) (size offset : Nat) (counts : Prop) : Prop :=
  match outcome with
  | .response r => r.status < 400 ∧ ∃ payload, r.payload = .ok payload ∧
    Envelope.Holds payload ((data.drop offset).take size) ∧ Envelope.AgreesOn payload data.length ∧
    (counts → Envelope.Counts payload data.length)
  | _ => False

/-- Whether an outcome is an error response whose message, in lower case, names the counting option of a strategy and
calls it not valid. -/
def Outcome.IsRejectionOf (outcome : Outcome) (strategy : CountStrategy) : Prop :=
  match outcome with
  | .response r => 400 ≤ r.status ∧ ∃ message, ErrorMessage.ofResponse r = .ok message ∧
    strategy.isRejectedBy (Value.textual message).display = true
  | _ => False

theorem Outcome.IsPageOf.exists_page {outcome : Outcome} {data : List Value} {size offset : Nat} {counts : Prop}
    (h : outcome.IsPageOf data size offset counts) (url : JsonText) :
    ∃ total, Page.ofOutcome outcome url = .ok ⟨(data.drop offset).take size, total, url⟩ ∧
      (total = none ∨ total = some (data.length : Int)) ∧ (counts → total = some (data.length : Int)) := by
  cases outcome with
  | response r =>
    obtain ⟨hstatus, payload, hpayload, hholds, hagrees, hcounts⟩ := h
    obtain ⟨total, htotal, hcases, hcounted⟩ := Envelope.total_of_agreesOn hagrees
    refine ⟨total, ?_, hcases, fun h => hcounted (hcounts h)⟩
    rw [Page.ofOutcome_of_no_error (Int.not_le.2 hstatus), hpayload]
    change Page.ofPayload payload url = _
    rw [Page.ofPayload, if_neg (by simp [Page.isWrapped_of_holds hholds]), htotal, Envelope.rows_of_holds hholds]
    rfl
  | failure kind message => exact h.elim
  | unsendable => exact h.elim

theorem Outcome.IsRejectionOf.rejects {outcome : Outcome} {strategy : CountStrategy}
    (h : outcome.IsRejectionOf strategy) (url : JsonText) :
    Rejects strategy.parameter? (Page.ofOutcome outcome url) := by
  cases outcome with
  | response r =>
    obtain ⟨hstatus, message, hmessage, hrejected⟩ := h
    obtain ⟨e, he⟩ : ∃ e, r.refusal url = .ok e := by
      unfold Response.refusal
      rw [hmessage]
      exact ⟨_, rfl⟩
    obtain ⟨message', hmessage', -, htext⟩ := Response.refusal_eq_ok he
    obtain rfl : message' = message := Except.ok.inj (hmessage'.symm.trans hmessage)
    rw [Page.ofOutcome_of_error hstatus, he]
    unfold CountStrategy.isRejectedBy at hrejected
    cases hparameter : strategy.parameter? with
    | none => simp [hparameter] at hrejected
    | some pair =>
      simp only [hparameter, Bool.and_eq_true] at hrejected
      exact ⟨pair.1, pair.2, e, rfl, rfl, htext ▸ hrejected.1, htext ▸ hrejected.2⟩
  | failure kind message => exact h.elim
  | unsendable => exact h.elim

/-! ## Requests -/

/-- Whether a URL asks for the total by the counting option of a strategy. -/
def AsksBy (address url : JsonText) (strategy : CountStrategy) : Prop :=
  ∃ option value, strategy.parameter? = some (option, value) ∧
    (optionsIn address url).lookup option.toList = some value.toList

/-- Whether an outcome is what a service with these rows answers the request for a URL by: the page that the size and
the offset in the URL select, with the total if the URL asks for it, or a rejection of a counting option in the
URL. -/
def Serves (data : List Value) (address url : JsonText) (outcome : Outcome) : Prop :=
  ∀ size offset : Nat, (optionsIn address url).lookup "$top".toList = some (Numeral.ofNat size) →
    ((optionsIn address url).lookup "$skip".toList).getD (Numeral.ofNat 0) = Numeral.ofNat offset →
    outcome.IsPageOf data size offset (∃ strategy, AsksBy address url strategy) ∨
    ∃ strategy, AsksBy address url strategy ∧ outcome.IsRejectionOf strategy

theorem CountStrategy.parameter?_eq_none_iff {strategy : CountStrategy} :
    strategy.parameter? = Option.none ↔ strategy = .none := by
  cases strategy <;> simp [parameter?]

theorem asksBy_plain_iff {top skip : Int} {asked strategy : CountStrategy} {address url : JsonText}
    (h : (PageQuery.plain top skip asked).toUrl address = .ok url) :
    AsksBy address url strategy ↔ asked = strategy ∧ strategy ≠ .none := by
  unfold AsksBy
  rw [PageQuery.optionsIn_plain h]
  constructor
  · rintro ⟨option, value, hparameter, hlookup⟩
    rw [PageQuery.lookup_count_plain hparameter] at hlookup
    refine ⟨by_contra fun hne => by simp [hne] at hlookup, ?_⟩
    rintro rfl
    cases hparameter
  · rintro ⟨rfl, hne⟩
    obtain ⟨⟨option, value⟩, hparameter⟩ :=
      Option.ne_none_iff_exists'.1 fun h => hne (CountStrategy.parameter?_eq_none_iff.1 h)
    refine ⟨option, value, hparameter, ?_⟩
    rw [PageQuery.lookup_count_plain hparameter, if_pos rfl]

/-- A plain query is answered by the page it asks for, with the total if it asks for that, or by a rejection of its
counting option. -/
theorem Serves.page_or_rejects {data : List Value} {address url : JsonText} {outcome : Outcome}
    (h : Serves data address url outcome) {size offset : Nat} (hsize : 0 < size) {asked : CountStrategy}
    (hurl : (PageQuery.plain size offset asked).toUrl address = .ok url) :
    outcome.IsPageOf data size offset (asked ≠ .none) ∨
    Rejects asked.parameter? (Page.ofOutcome outcome url) := by
  have htop : (optionsIn address url).lookup "$top".toList = some (Numeral.ofNat size) := by
    rw [PageQuery.optionsIn_plain hurl, PageQuery.lookup_top_plain (Int.natCast_pos.2 hsize)]
    rfl
  have hskip : ((optionsIn address url).lookup "$skip".toList).getD (Numeral.ofNat 0) = Numeral.ofNat offset := by
    rw [PageQuery.optionsIn_plain hurl, PageQuery.lookup_skip_plain]
    by_cases hpos : 0 < offset
    · rw [if_pos (Int.natCast_pos.2 hpos)]
      rfl
    · rw [if_neg (mt Int.natCast_pos.1 hpos), Nat.eq_zero_of_not_pos hpos]
      rfl
  refine (h size offset htop hskip).imp (fun hpage => ?_) ?_
  · have hasks : (∃ strategy, AsksBy address url strategy) ↔ asked ≠ .none := by
      simp only [asksBy_plain_iff hurl, exists_eq_left']
    rwa [hasks] at hpage
  · rintro ⟨strategy, hasks, hrejection⟩
    rw [((asksBy_plain_iff hurl).1 hasks).1]
    exact hrejection.rejects url

/-! ## Answers to one request -/

theorem Serves.of_page {data : List Value} {address url : JsonText} {outcome : Outcome} {size offset : Nat}
    (htop : (optionsIn address url).lookup "$top".toList = some (Numeral.ofNat size))
    (hskip : ((optionsIn address url).lookup "$skip".toList).getD (Numeral.ofNat 0) = Numeral.ofNat offset)
    (hpage : outcome.IsPageOf data size offset (∃ strategy, AsksBy address url strategy)) :
    Serves data address url outcome := by
  intro size' offset' htop' hskip'
  obtain rfl := Numeral.ofNat_injective (Option.some.inj (htop'.symm.trans htop))
  obtain rfl := Numeral.ofNat_injective (hskip'.symm.trans hskip)
  exact .inl hpage

theorem Serves.of_rejection {data : List Value} {address url : JsonText} {outcome : Outcome}
    {strategy : CountStrategy} (hasks : AsksBy address url strategy) (h : outcome.IsRejectionOf strategy) :
    Serves data address url outcome :=
  fun _ _ _ _ => .inr ⟨strategy, hasks, h⟩

end ODataBrowser
