import Mathlib.Data.List.Permutation
import ODataBrowser.Proofs.Number.Integer
import ODataBrowser.Proofs.Pager.Loading
import ODataBrowser.Proofs.Service.Answer

/-!
# Bodies that are JSON

A response holds a JSON value if its content type says so and its body is read as one (`Response.Decodes`). That it
holds none is told by a wrapper of the body, which is itself a value. So a value that is like the wrapper is taken for
a body that is no JSON: a page is read from just the other values whose total is in range, and for the rest the
service is told that JSON was expected (`Session.readPage_of_response`).
-/

namespace ODataBrowser

open Text

/-! ## The value of a response -/

theorem Value.text_orElse_empty (s : String) : (Value.text s).orElse (.text "") = .text s := by
  unfold orElse
  split
  · rfl
  · rename_i hempty
    have hs : s = "" := by simpa [isPresent, Scalar.isPresent, JsonText.isEmpty] using hempty
    rw [hs]

theorem Value.toTextOrEmpty_text (s : String) : (Value.text s).toTextOrEmpty = .ok s := by
  rw [toTextOrEmpty, text_orElse_empty]
  exact congrArg Except.ok String.ofList_toList

namespace Response

/-- Whether a response is declared to be JSON: its content type has the word in any case. -/
def IsDeclaredJson (r : Response) : Prop :=
  ∃ contentType, r.contentType.toTextOrEmpty = .ok contentType ∧
    occurs "json".toList (lowercase contentType.toList) = true

/-- Whether a response holds a value: it is declared to be JSON, and its body is read as the value. -/
def Decodes (r : Response) (v : Value) : Prop :=
  r.IsDeclaredJson ∧ Json.read? r.body = .ok (some v)

/-- Whether a response holds no value: it is not declared to be JSON, or its body is none. -/
def IsUndecoded (r : Response) : Prop :=
  ¬r.IsDeclaredJson ∨ Json.read? r.body = .ok none

variable {r : Response} {v w : Value}

theorem Decodes.unique (h : r.Decodes v) (h' : r.Decodes w) : v = w :=
  Option.some.inj (Except.ok.inj (h.2.symm.trans h'.2))

theorem Decodes.not_isUndecoded (h : r.Decodes v) : ¬r.IsUndecoded := by
  rintro (hdeclared | hread)
  · exact hdeclared h.1
  · cases h.2.symm.trans hread

theorem payload_of_declared (h : r.IsDeclaredJson) :
    r.payload = (Json.read? r.body).map fun body => body.getD r.wrapped := by
  obtain ⟨contentType, htype, hjson⟩ := h
  rw [payload, htype]
  change (if _ then _ else _) = _
  rw [if_pos hjson]
  cases Json.read? r.body <;> rfl

theorem payload_of_decodes (h : r.Decodes v) : r.payload = .ok v := by
  rw [payload_of_declared h.1, h.2]
  rfl

theorem payload_of_undecoded {contentType : String} (htype : r.contentType.toTextOrEmpty = .ok contentType)
    (h : r.IsUndecoded) : r.payload = .ok r.wrapped := by
  by_cases hdeclared : r.IsDeclaredJson
  · rw [payload_of_declared hdeclared, h.resolve_left (not_not_intro hdeclared)]
    rfl
  · rw [payload, htype]
    change (if _ then _ else _) = _
    exact if_neg fun hjson => hdeclared ⟨contentType, htype, hjson⟩

/-- A response has the wrapper of its body, or the value that it holds, or it is nested too deeply. -/
theorem payload_cases {contentType : String} (htype : r.contentType.toTextOrEmpty = .ok contentType) :
    r.IsUndecoded ∧ r.payload = .ok r.wrapped ∨ (∃ v, r.Decodes v ∧ r.payload = .ok v) ∨
      ¬r.IsUndecoded ∧ (∀ v, ¬r.Decodes v) ∧ r.payload = .error .tooDeep := by
  by_cases hundecoded : r.IsUndecoded
  · exact .inl ⟨hundecoded, payload_of_undecoded htype hundecoded⟩
  · obtain ⟨hdeclared, hread⟩ := not_or.1 hundecoded
    have hdeclared : r.IsDeclaredJson := not_not.1 hdeclared
    cases hbody : Json.read? r.body with
    | ok body =>
      cases body with
      | none => exact absurd hbody hread
      | some v => exact .inr (.inl ⟨v, ⟨hdeclared, hbody⟩, payload_of_decodes ⟨hdeclared, hbody⟩⟩)
    | error fault =>
      refine .inr (.inr ⟨hundecoded, fun v hv => absurd (hv.2.symm.trans hbody) nofun, ?_⟩)
      rw [payload_of_declared hdeclared, hbody, Json.eq_tooDeep_of_read? hbody]
      rfl

end Response

/-! ## Wrapped bodies -/

/-- Whether a value looks like the wrapper of a body: an object with the two fields of a wrapper and no other. -/
def Page.LooksWrapped (v raw : Value) : Prop :=
  ∃ contentType fields, fields.Perm [("raw", raw), ("content_type", contentType)] ∧ v = .ofFields fields

theorem Value.exists_mem_of_lookup? {entries : List (Scalar × Value)} {name : String}
    (h : (lookup? entries name).isSome) : ∃ v, (Scalar.text name, v) ∈ entries := by
  obtain ⟨v, hv⟩ := Option.isSome_iff_exists.1 h
  obtain ⟨entry, hfind, rfl⟩ := Option.map_eq_some_iff.1 hv
  have hkey : entry.1 = .text name := by simpa using List.find?_some hfind
  exact ⟨entry.2, hkey ▸ List.mem_of_find?_eq_some hfind⟩

theorem Page.field_of_looksWrapped {v raw : Value} (h : LooksWrapped v raw) : v.field "raw" = raw := by
  obtain ⟨contentType, fields, hperm, rfl⟩ := h
  rcases List.perm_pair.1 hperm with rfl | rfl <;> rfl

theorem Page.looksWrapped_wrapped (r : Response) : LooksWrapped r.wrapped (.text r.body) :=
  ⟨r.contentType, _, .refl _, rfl⟩

theorem Page.isWrapped_iff {v : Value} : isWrapped v = true ↔ ∃ raw, LooksWrapped v raw := by
  constructor
  · intro h
    cases v with
    | scalar s => contradiction
    | list items => contradiction
    | map entries =>
      simp only [isWrapped, Bool.and_eq_true, beq_iff_eq] at h
      obtain ⟨⟨htwo, hraw⟩, htype⟩ := h
      obtain ⟨raw, hraw⟩ := Value.exists_mem_of_lookup? hraw
      obtain ⟨contentType, htype⟩ := Value.exists_mem_of_lookup? htype
      obtain ⟨x, y, rfl⟩ := List.length_eq_two.1 htwo
      simp only [List.mem_cons, List.not_mem_nil, or_false] at hraw htype
      rcases hraw with rfl | rfl <;> rcases htype with htype | htype
      · simp at htype
      · exact ⟨raw, contentType, [("raw", raw), ("content_type", contentType)], .refl _, htype ▸ rfl⟩
      · exact ⟨raw, contentType, [("content_type", contentType), ("raw", raw)], .swap .., htype ▸ rfl⟩
      · simp at htype
  · rintro ⟨raw, contentType, fields, hperm, rfl⟩
    rcases List.perm_pair.1 hperm with rfl | rfl <;> rfl

/-! ## Pages -/

/-- Whether an error says that JSON was expected. -/
def ServiceError.ExpectsJson (e : ServiceError) : Prop :=
  e.status = .int 200 ∧ ∃ given : JsonText,
    e.message = .textual (given.behind "Expected a JSON response, got ".toList)

theorem ServiceError.isSome_snippet?_text (s : String) : (snippet? (.text s)).isSome = true := by
  rw [snippet?, Value.text_orElse_empty]
  rfl

/-- A value is taken for a wrapped body just if it looks like one and has a part that can be shown. -/
theorem Page.ofPayload_expectsJson_iff (v : Value) (url : JsonText) :
    (∃ e, ofPayload v url = .error (.request (.refused e)) ∧ e.ExpectsJson) ↔
      ∃ raw, LooksWrapped v raw ∧ (ServiceError.snippet? raw).isSome = true := by
  unfold ofPayload
  cases hwrapped : isWrapped v with
  | true =>
    obtain ⟨raw, hlooks⟩ := isWrapped_iff.1 hwrapped
    rw [if_pos rfl]
    rcases notJson_cases v url with ⟨e, shown, he, hstatus, hmessage, hshown⟩ | ⟨hkind, hshown⟩
    · rw [field_of_looksWrapped hlooks] at hshown
      exact iff_of_true ⟨e, congrArg Except.error he, hstatus, _, hmessage⟩ ⟨raw, hlooks, hshown ▸ rfl⟩
    · rw [hkind]
      refine iff_of_false (by simp) ?_
      rintro ⟨raw', hlooks', hshown'⟩
      rw [← field_of_looksWrapped hlooks', hshown] at hshown'
      contradiction
  | false =>
    rw [if_neg Bool.false_ne_true]
    refine iff_of_false ?_ fun ⟨raw, hlooks, _⟩ => ?_
    · rintro ⟨e, he, -⟩
      have hrange := Envelope.eq_outOfRange_of_firstCount (Fault.eq_error_of_map he)
      exact absurd hrange.1 (by simp)
    · rw [isWrapped_iff.2 ⟨raw, hlooks⟩] at hwrapped
      contradiction

theorem Page.ofPayload_eq_ok_iff (v : Value) (url : JsonText) (page : Page) :
    ofPayload v url = .ok page ↔
      (∀ raw, ¬LooksWrapped v raw) ∧ ∃ total, Envelope.total v = .ok total ∧ page = ⟨Envelope.rows v, total, url⟩ := by
  unfold ofPayload
  rw [← not_exists, ← isWrapped_iff, Bool.not_eq_true]
  cases isWrapped v with
  | true => exact iff_of_false nofun nofun
  | false =>
    rw [if_neg Bool.false_ne_true]
    cases Envelope.total v with
    | ok total => simp [Except.map, eq_comm]
    | error fault => simp [Except.map]

/-- A value whose counts are in the range of doubles has a total, if only none. -/
theorem Envelope.exists_total {v : Value}
    (h : ∀ n, .int n ∈ totalFields v → n.natAbs < 2 ^ 1024 - 2 ^ 970) : ∃ total, Envelope.total v = .ok total := by
  cases htotal : Envelope.total v with
  | ok total => exact ⟨total, rfl⟩
  | error fault =>
    obtain ⟨-, n, hn, hlarge⟩ := eq_outOfRange_of_firstCount htotal
    exact absurd ((Binary64.ofInt?_eq_none_iff n).1 hlarge) (Nat.not_le.2 (h n hn))

section

variable {r : Response} {contentType : String} (hstatus : r.status < 400)
  (htype : r.contentType.toTextOrEmpty = .ok contentType) (url : JsonText)

include hstatus htype

theorem Page.ofOutcome_expectsJson_iff :
    (∃ e, ofOutcome (.response r) url = .error (.request (.refused e)) ∧ e.ExpectsJson) ↔
      r.IsUndecoded ∨
        ∃ v raw, r.Decodes v ∧ LooksWrapped v raw ∧ (ServiceError.snippet? raw).isSome = true := by
  rw [ofOutcome_of_no_error (Int.not_le.2 hstatus)]
  rcases Response.payload_cases htype with ⟨hnone, h⟩ | ⟨v, hv, h⟩ | ⟨hread, hno, h⟩
  · rw [h]
    refine iff_of_true ((ofPayload_expectsJson_iff r.wrapped url).2 ?_) (.inl hnone)
    exact ⟨.text r.body, looksWrapped_wrapped r, ServiceError.isSome_snippet?_text r.body⟩
  · rw [h, or_iff_right hv.not_isUndecoded]
    refine (ofPayload_expectsJson_iff v url).trans ⟨fun ⟨raw, hraw⟩ => ⟨v, raw, hv, hraw⟩, ?_⟩
    rintro ⟨w, raw, hw, hraw⟩
    exact ⟨raw, hv.unique hw ▸ hraw⟩
  · rw [h]
    refine iff_of_false (fun ⟨e, he, _⟩ => nomatch he) ?_
    rintro (hnone | ⟨v, -, hv, -⟩)
    · exact hread hnone
    · exact hno v hv

theorem Page.ofOutcome_eq_ok_iff (page : Page) :
    ofOutcome (.response r) url = .ok page ↔ ∃ v total, r.Decodes v ∧ (∀ raw, ¬LooksWrapped v raw) ∧
      Envelope.total v = .ok total ∧ page = ⟨Envelope.rows v, total, url⟩ := by
  rw [ofOutcome_of_no_error (Int.not_le.2 hstatus)]
  rcases Response.payload_cases htype with ⟨hnone, h⟩ | ⟨v, hv, h⟩ | ⟨-, hno, h⟩
  · rw [h]
    refine (ofPayload_eq_ok_iff r.wrapped url page).trans (iff_of_false ?_ ?_)
    · exact fun hpage => hpage.1 _ (looksWrapped_wrapped r)
    · rintro ⟨v, -, hv, -⟩
      exact hv.not_isUndecoded hnone
  · rw [h]
    refine (ofPayload_eq_ok_iff v url page).trans ⟨fun ⟨hlooks, total, ht⟩ => ⟨v, total, hv, hlooks, ht⟩, ?_⟩
    rintro ⟨w, total, hw, hlooks, ht⟩
    exact hv.unique hw ▸ ⟨hlooks, total, ht⟩
  · rw [h]
    exact iff_of_false nofun fun ⟨v, _, hv, _⟩ => hno v hv

end

/-- **What a response that is no error comes to.** The service is told that JSON was expected just if the response is
not declared to be JSON, its body is none, or its value looks like a wrapped body with a part that can be shown. A page
is read just from the values that do not look like a wrapped body and have a total that can be read, as those have whose
counts are in the range of doubles. -/
theorem Session.readPage_of_response (s : Session) {resource : JsonText} {query : Query.PageQuery} {url : JsonText}
    {r : Response} {contentType : String} (later : List Outcome)
    (hurl : query.toUrl (resourceUrl s.base resource) = .ok url) (hstatus : r.status < 400)
    (htype : r.contentType = .text contentType) :
    let read := s.readPage resource query (.response r :: later)
    read.sent = [s.dataRequest url] ∧ read.pending = later ∧
    ((∃ e, read.result = .error (.request (.refused e)) ∧ e.ExpectsJson) ↔ r.IsUndecoded ∨
      ∃ v raw, r.Decodes v ∧ Page.LooksWrapped v raw ∧ (ServiceError.snippet? raw).isSome = true) ∧
    (∀ page, read.result = .ok page ↔ ∃ v total, r.Decodes v ∧ (∀ raw, ¬Page.LooksWrapped v raw) ∧
      Envelope.total v = .ok total ∧ page = ⟨Envelope.rows v, total, url⟩) ∧
    ∀ v, r.Decodes v → (∀ raw, ¬Page.LooksWrapped v raw) →
      (∀ n, .int n ∈ Envelope.totalFields v → n.natAbs < 2 ^ 1024 - 2 ^ 970) →
      ∃ page, read.result = .ok page := by
  intro read
  have htext : r.contentType.toTextOrEmpty = .ok contentType := by
    rw [htype, Value.toTextOrEmpty_text]
  have hread : read = ⟨Page.ofOutcome (.response r) url, [s.dataRequest url], later⟩ := by
    simp only [read, readPage, hurl, nextOutcome]
  rw [hread]
  refine ⟨rfl, rfl, Page.ofOutcome_expectsJson_iff hstatus htext url, Page.ofOutcome_eq_ok_iff hstatus htext url, ?_⟩
  intro v hv hlooks hrange
  obtain ⟨total, htotal⟩ := Envelope.exists_total hrange
  exact ⟨_, (Page.ofOutcome_eq_ok_iff hstatus htext url _).2 ⟨v, total, hv, hlooks, htotal, rfl⟩⟩

/-- An object with a total and a row of its own, declared with capitals. -/
theorem Session.readPage_of_response_in_capitals :
    let s := Session.anonymous "https://host/svc"
    let v : Value := .ofFields [("raw", .text "x"), ("count", .int 7)]
    let r : Response := ⟨201, "", [("content-type", .text "Application/JSON")], "\x7b\"raw\": \"x\", \"count\": 7\x7d"⟩
    let url := "https://host/svc/P?$format=json"
    ({} : Query.PageQuery).toUrl (resourceUrl s.base "P") = .ok url ∧ r.status < 400 ∧
    r.contentType = .text "Application/JSON" ∧
    (s.readPage "P" {} [.response r]).result = .ok ⟨[v], some 7, url⟩ := by
  intro s v r url
  have hurl : ({} : Query.PageQuery).toUrl (resourceUrl s.base "P") = .ok url :=
    Fault.eq_ok_of_toOption (by decide)
  have htype : r.contentType = .text "Application/JSON" := by decide
  have hv : r.Decodes v := ⟨⟨"Application/JSON", Value.toTextOrEmpty_text _, by decide⟩,
    Fault.eq_ok_of_toOption (by decide +kernel)⟩
  have hlooks : ∀ raw, ¬Page.LooksWrapped v raw := by
    rw [← not_exists, ← Page.isWrapped_iff]
    decide
  obtain ⟨-, -, -, hpage, -⟩ := s.readPage_of_response [] hurl (by decide : r.status < 400) htype
  exact ⟨hurl, by decide, htype, (hpage _).2 ⟨v, some 7, hv, hlooks, Fault.eq_ok_of_toOption (by decide), rfl⟩⟩

/-- A row of its own that has just the fields of a wrapper is not read, although the response holds it. -/
theorem Session.readPage_refuses_row_like_wrapper :
    let s := Session.anonymous "https://host/svc"
    let r : Response := ⟨200, "", [("Content-Type", .text "application/json")],
      "\x7b\"raw\": \"x\", \"content_type\": \"y\"\x7d"⟩
    r.Decodes (.ofFields [("raw", .text "x"), ("content_type", .text "y")]) ∧
    ∃ e, (s.readPage "P" {} [.response r]).result = .error (.request (.refused e)) ∧ e.ExpectsJson := by
  intro s r
  have hjson : occurs "json".toList (lowercase "application/json".toList) = true := by decide
  have htype : r.contentType.toTextOrEmpty = .ok "application/json" := Value.toTextOrEmpty_text _
  have hv : r.Decodes (.ofFields [("raw", .text "x"), ("content_type", .text "y")]) :=
    ⟨⟨"application/json", htype, hjson⟩, Fault.eq_ok_of_toOption (by decide +kernel)⟩
  obtain ⟨url, hurl⟩ : ∃ url, ({} : Query.PageQuery).toUrl (resourceUrl s.base "P") = .ok url :=
    ⟨"https://host/svc/P?$format=json", Fault.eq_ok_of_toOption (by decide)⟩
  refine ⟨hv, ?_⟩
  simp only [readPage, hurl, nextOutcome]
  refine (Page.ofOutcome_expectsJson_iff (show r.status < 400 by decide) htype url).2 (.inr ?_)
  exact ⟨_, .text "x", hv, ⟨.text "y", _, .refl _, rfl⟩, ServiceError.isSome_snippet?_text "x"⟩

end ODataBrowser
