import ODataBrowser.Proofs.Json.Refusal
import ODataBrowser.Proofs.Pager.LastAnswer
import ODataBrowser.Proofs.Pager.Likeness
import ODataBrowser.Proofs.Pager.Settling
import ODataBrowser.Proofs.Service.Dialect

/-!
# Loads of pages in all dialects

A load comes to the same page and to the same state whichever dialect the page is written in
(`Pager.load_of_same_page`). For that the page must be asked for, and its rows must be read as JSON
(`Pager.load_does_not_reach_page`).
-/

namespace ODataBrowser

open Query

variable {r s : Response} {rows : List Value} {total? : Option Nat}

/-! ## Answers -/

theorem Outcome.isLike_of_isPage (hsmall : ∀ n ∈ total?, n ≤ 2 ^ 53) (h : r.IsPage rows total?)
    (h' : s.IsPage rows total?) : (Outcome.response r).IsLike (.response s) := fun url =>
  .inl ((Page.ofOutcome_of_isPage h' hsmall url).trans (Page.ofOutcome_of_isPage h hsmall url).symm)

theorem Response.payload_of_unread {contentType : String} (htype : r.contentType.toTextOrEmpty = .ok contentType)
    (hread : Json.read? r.body = .ok none) : r.payload = .ok r.wrapped :=
  payload_of_undecoded htype (.inr hread)

theorem Response.payload_of_tooDeep {contentType : String} (htype : r.contentType.toTextOrEmpty = .ok contentType)
    (hjson : Text.occurs "json".toList (Text.lowercase contentType.toList) = true)
    (hread : Json.read? r.body = .error .tooDeep) : r.payload = .error .tooDeep := by
  rw [payload_of_declared ⟨contentType, htype, hjson⟩, hread]
  rfl

/-- A response that should be JSON and is not is refused for its content type. -/
theorem Page.ofOutcome_of_unread (hstatus : ¬400 ≤ r.status) (htype : r.contentType = .text "application/json")
    (hread : Json.read? r.body = .ok none) (url : JsonText) :
    ∃ e, ofOutcome (.response r) url = .error (.request (.refused e)) ∧
      e.message = .text "Expected a JSON response, got application/json" := by
  have htext : r.contentType.toTextOrEmpty = .ok "application/json" := htype ▸ rfl
  have hmessage : notJsonText r.wrapped = .string "Expected a JSON response, got application/json" := by
    unfold notJsonText Response.wrapped
    rw [htype]
    change ((Value.text "application/json").orElse (.text "unknown content type")).asText.behind _ = _
    decide +kernel
  rw [ofOutcome_of_no_error hstatus, Response.payload_of_unread htext hread]
  obtain ⟨shown, hshown⟩ : ∃ shown, ServiceError.snippet? (r.wrapped.field "raw") = some shown :=
    isTractable_wrapped r
  rcases notJson_cases r.wrapped url with ⟨e, _, he, -, hsaid, -⟩ | ⟨-, hnone⟩
  · rw [hmessage] at hsaid
    exact ⟨e, congrArg Except.error he, hsaid⟩
  · exact absurd (hshown.symm.trans hnone) (by simp)

namespace Pager

variable (p : Pager) (session : Session) (arguments : LoadArguments) (before after : List Outcome)

/-! ## Loads -/

/-- A load that comes to a page has its rows, and its total if there is one. -/
theorem load_of_isPage (hsmall : ∀ n ∈ total?, n ≤ 2 ^ 53) (h : r.IsPage rows total?)
    (hreached : before.length < (p.load session arguments (before ++ .response r :: after)).sent.length) :
    ∃ page, (p.load session arguments (before ++ .response r :: after)).result = .ok page ∧ page.rows = rows ∧
      page.countObserved = total?.isSome ∧ ∀ n ∈ total?, page.total = n := by
  have hpage := Page.ofOutcome_of_isPage h hsmall
  have hfinal : (Outcome.response r).IsFinal := Outcome.isFinal_of_ne_refused fun url e he => by
    rw [hpage url] at he
    cases he
  obtain ⟨q, resource, a, url, ha, hload⟩ := p.load_of_isFinal session hfinal before after hreached
  rw [hpage url] at ha
  unfold conclude at hload
  rw [ha] at hload
  refine ⟨_, hload, rfl, Option.isSome_map .., ?_⟩
  rintro n hn
  obtain rfl : total? = some n := hn
  rfl

/-- **Loads do not depend on the dialect of a page.** If two responses are pages of the same rows, both with the same
total or both without one, a load sends the same requests and comes to the same state with either. If it gets as far as
the response, its result is the same page of these rows, with the total observed just if there is one. -/
theorem load_of_same_page (hsmall : ∀ n ∈ total?, n ≤ 2 ^ 53) (h : r.IsPage rows total?) (h' : s.IsPage rows total?) :
    let load := p.load session arguments (before ++ .response r :: after)
    let load' := p.load session arguments (before ++ .response s :: after)
    load.IsLike load' ∧ (before.length < load.sent.length →
      ∃ page, load.result = .ok page ∧ load'.result = .ok page ∧ page.rows = rows ∧
        page.countObserved = total?.isSome ∧ ∀ n ∈ total?, page.total = n) := by
  intro load load'
  have hlike : load.IsLike load' :=
    p.load_congr_of_isLike session (Outcome.isLike_of_isPage hsmall h h') before after arguments
  refine ⟨hlike, fun hreached => ?_⟩
  obtain ⟨page, hpage, hrows, hobserved, htotal⟩ := p.load_of_isPage session arguments before after hsmall h hreached
  have hpage : load.result = .ok page := hpage
  refine ⟨page, hpage, ?_, hrows, hobserved, htotal⟩
  rcases hlike.result with hsame | ⟨e, cause, cause', herror, -⟩
  · exact hsame.trans hpage
  · exact absurd (herror.symm.trans hpage) nofun

/-- Two rows of seven, once in a new dialect and once in an old one, which writes the total as a text. -/
theorem load_of_same_page_of_value_and_results :
    let rows : List Value := [.ofFields [("n", .int 1)], .ofFields [("n", .int 2)]]
    let answer (body : String) : Response := ⟨200, "OK", [("Content-Type", .text "application/json")], body⟩
    let r := answer "\x7b\"value\": [\x7b\"n\": 1\x7d, \x7b\"n\": 2\x7d], \"@odata.count\": 7\x7d"
    let s := answer "\x7b\"d\": \x7b\"__count\": \"7\", \"results\": [\x7b\"n\": 1\x7d, \x7b\"n\": 2\x7d]\x7d\x7d"
    let load (r : Response) := (start 2 .count).load (.anonymous "https://host/svc") { resource := .text "P" }
      [.json 400 "\x7b\"message\": \"$count is not a valid option\"\x7d", .response r]
    (∀ n ∈ some 7, n ≤ 2 ^ 53) ∧ r.IsPage rows (some 7) ∧ s.IsPage rows (some 7) ∧ (load r).IsLike (load s) ∧
    ∃ page, (load r).result = .ok page ∧ (load s).result = .ok page ∧ page.rows = rows ∧ page.total = 7 := by
  intro rows answer r s load
  have hsmall : ∀ n ∈ some 7, n ≤ 2 ^ 53 := by decide
  have hjson (body : String) : ∃ contentType, (answer body).contentType.toTextOrEmpty = .ok contentType ∧
      Text.occurs "json".toList (Text.lowercase contentType.toList) = true :=
    ⟨"application/json", rfl, by decide +kernel⟩
  have hvalue : r.IsPage rows (some 7) := ⟨by decide, hjson _,
    .ofFields [("value", .list rows), ("@odata.count", .int 7)], Fault.eq_ok_of_toOption (by decide +kernel),
    .counted (.inl rfl) .integer (.refl _)⟩
  have hresults : s.IsPage rows (some 7) := ⟨by decide, hjson _,
    .ofFields [("d", .ofFields [("__count", .text "7"), ("results", .list rows)])],
    Fault.eq_ok_of_toOption (by decide +kernel), .countedResults .numeral (.swap ..)⟩
  have hreached : 1 < (load r).sent.length := by decide +kernel
  obtain ⟨hlike, hpage⟩ := load_of_same_page (start 2 .count) (.anonymous "https://host/svc") { resource := .text "P" }
    [.json 400 "\x7b\"message\": \"$count is not a valid option\"\x7d"] [] hsmall hvalue hresults
  obtain ⟨page, hloaded, hloaded', hrows, -, htotal⟩ := hpage hreached
  exact ⟨hsmall, hvalue, hresults, hlike, page, hloaded, hloaded', hrows, htotal 7 rfl⟩

/-! ## Limits -/

/-- A load that comes to a response that is no JSON fails. -/
theorem load_of_unread (hstatus : ¬400 ≤ r.status) (htype : r.contentType = .text "application/json")
    (hread : Json.read? r.body = .ok none)
    (hreached : before.length < (p.load session arguments (before ++ .response r :: after)).sent.length) :
    ∃ e cause, (p.load session arguments (before ++ .response r :: after)).result = .error (.fetch e cause) := by
  have hrefused := Page.ofOutcome_of_unread hstatus htype hread
  have hfinal : (Outcome.response r).IsFinal := by
    rintro url count ⟨_, _, e, -, he, -, hinvalid⟩
    obtain ⟨e', he', hmessage⟩ := hrefused url
    cases he'.symm.trans he
    rw [hmessage] at hinvalid
    exact absurd hinvalid (by decide +kernel)
  obtain ⟨q, resource, a, url, ha, hload⟩ := p.load_of_isFinal session hfinal before after hreached
  obtain ⟨e, he, -⟩ := hrefused url
  rw [he] at ha
  unfold conclude at hload
  rw [ha] at hload
  exact ⟨_, _, hload⟩

/-- A load whose page size cannot be written sends nothing. -/
theorem load_of_unwritable_size {name : JsonText} {size : Option Int}
    (h : ¬IsWritable ((p.onResource name).sizeFor size)) (skip : Int) (isRetry : Bool) (outcomes : List Outcome) :
    let load := p.load session (integerArguments name skip size [] [] isRetry) outcomes
    load.result = .error .unreadable ∧ load.sent = [] := by
  intro load
  obtain ⟨status, a, -, hload, hcases⟩ := p.load_plain_cases session name skip size isRetry outcomes
  obtain ⟨hresult, hsent, -⟩ := hcases.resolve_right fun hwritable => h hwritable.1
  rw [show load = _ from hload, conclude, hresult]
  exact ⟨rfl, hsent⟩

/-- Not every load comes to the page. A row with an integer of 4301 digits is not read, and the load fails, even if
another field of the same name would replace it; brackets nested 3000 times in its place end the load in another fault;
and with a page size of 4301 digits the page is not asked for. -/
theorem load_does_not_reach_page :
    let body (value more : List Char) := String.ofList ('[' :: ("\x7b\"n\":".toList ++ (value ++ more)))
    let replaced := ',' :: "\"n\":1\x7d]".toList
    let load (size : Option Int) (body : String) := (start 25 .none).load (.anonymous "https://host/svc")
      (integerArguments "P" 0 size [] [] false) [.json 200 body]
    (load none (body ['2'] replaced)).result.toOption.map (·.rows) = some [.ofFields [("n", .int 1)]] ∧
    (∃ e cause, (load none (body (Json.ones 4301) replaced)).result = .error (.fetch e cause)) ∧
    (∃ e cause, (load none (body (Json.ones 4301) ['\x7d', ']'])).result = .error (.fetch e cause)) ∧
    (load none (body (List.replicate 3000 '[' ++ List.replicate 3000 ']') replaced)).result = .error .tooDeep ∧
    (load (some (tenPow 4300 : Nat)) (body ['1'] replaced)).result = .error .unreadable ∧
    (load (some (tenPow 4300 : Nat)) (body ['1'] replaced)).sent = [] := by
  intro body replaced load
  let answer (body : String) : Response := ⟨200, "", [("Content-Type", .text "application/json")], body⟩
  have hstatus (body : String) : ¬400 ≤ (answer body).status := (by decide : ¬(400 : Int) ≤ 200)
  have htype (body : String) : (answer body).contentType = .text "application/json" := rfl
  have hjson : Text.occurs "json".toList (Text.lowercase "application/json".toList) = true := by decide +kernel
  have hreached (body : String) : 0 < (load none body).sent.length := by
    have hsize : IsWritable (start 25 .none).defaultSize := by
      unfold IsWritable
      decide +kernel
    exact List.length_pos_iff.2 (load_sent_ne_nil _ _ "P" hsize _)
  have hlong (n : Nat) (hn : Numeral.maxDigits < n) {c : Char} (hc : c = ',' ∨ c = '\x7d') (rest : List Char) :
      ∃ e cause, (load none (body (Json.ones n) (c :: rest))).result = .error (.fetch e cause) :=
    load_of_unread (r := answer _) _ _ _ [] [] (hstatus _) (htype _) (Json.read?_ones_row hn hc rest) (hreached _)
  have hdeep (n : Nat) (hn : Json.maxDepth ≤ n) (more : List Char) :
      (load none (body (List.replicate n '[' ++ List.replicate n ']') more)).result = .error .tooDeep := by
    have hread : Json.read? (answer (body (List.replicate n '[' ++ List.replicate n ']') more)).body =
        .error .tooDeep := by
      simp only [answer, body, List.append_assoc]
      exact Json.read?_brackets_row hn _
    refine load_of_tooDeep _ _ (fun url => ?_) [] [] (hreached _)
    refine (Page.ofOutcome_of_no_error (hstatus _) url).trans ?_
    rw [Response.payload_of_tooDeep (htype _ ▸ rfl) hjson hread]
    rfl
  have hsize : ¬IsWritable (((start 25 .none).onResource "P").sizeFor (some (tenPow 4300 : Nat))) := by
    rw [sizeFor, if_neg (Int.natCast_pos.2 (tenPow_pos 4300)).ne']
    exact lt_irrefl _
  have hmany : Numeral.maxDigits < 4301 := by decide +kernel
  exact ⟨by decide +kernel, hlong 4301 hmany (.inl rfl) _, hlong 4301 hmany (.inr rfl) _,
    hdeep 3000 (by decide +kernel) _, load_of_unwritable_size _ _ hsize 0 false _⟩

end Pager

end ODataBrowser
