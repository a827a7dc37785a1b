import ODataBrowser.Proofs.Text.Blank
import ODataBrowser.Service.Page

/-!
# What an answer comes to

The answer to the request for a page is a page, or the request has failed, or a fault stops it
(`Page.ofOutcome_eq_error`). A failure reports the answer: the status and the message of an error response, the
kind of a response that is not JSON, or the message of the transport (`RequestFailure.Reports`).
-/

namespace ODataBrowser

open Text

/-! ## Messages -/

namespace ErrorMessage

theorem isEmpty_of_candidate? {v : Value} {t : JsonText} (h : candidate? v = some t) :
    t.isEmpty = false := by
  have hkept {u : JsonText} (h : (if u.strip.isEmpty then none else some u.strip) = some t) :
      t.isEmpty = false := by
    split at h
    · contradiction
    · rename_i hne
      rw [← Option.some.inj h]
      exact Bool.eq_false_iff.2 hne
  unfold candidate? at h
  cases v with
  | list items => contradiction
  | scalar s =>
    dsimp only at h
    split at h
    · exact hkept h
    · contradiction
  | map entries =>
    dsimp only at h
    split at h
    · exact hkept h
    · contradiction

theorem ne_empty_of_ofXml? {body message : String} (h : ofXml? body = some message) : message ≠ "" := by
  unfold ofXml? at h
  split at h
  · obtain ⟨root, -, h⟩ := Option.bind_eq_some_iff.1 h
    obtain ⟨node, -, h⟩ := List.exists_of_findSome?_eq_some h
    dsimp only at h
    split at h
    · contradiction
    · rename_i hne
      rw [← Option.some.inj h]
      simpa using hne
  · contradiction

theorem ne_empty_of_ofText? {body message : String} (h : ofText? body = some message) :
    message ≠ "" := by
  unfold ofText? at h
  dsimp only at h
  split at h
  · contradiction
  · rename_i hne
    simp only [Bool.or_eq_true, not_or] at hne
    rw [← Option.some.inj h]
    simpa using hne.1.1

theorem ofStatus_ne_empty (status : Int) (reason : String) : ofStatus status reason ≠ "" := by
  have htext : ("HTTP " ++ String.ofList (Numeral.ofInt status) ++ " " ++ reason).toList =
      'H' :: ("TTP ".toList ++ (Numeral.ofInt status ++ ' ' :: reason.toList)) := by
    simp
  unfold ofStatus stripped
  rw [htext]
  simpa using strip_cons_ne_nil (c := 'H') (by decide) _

/-- An error response always has a message. -/
theorem isEmpty_of_ofResponse {r : Response} {message : JsonText} (h : ofResponse r = .ok message) :
    message.isEmpty = false := by
  obtain ⟨body, -, h⟩ := Fault.exists_of_bind_eq_ok h
  have hplain : (ofXml? r.body <|> ofText? r.body).getD (ofStatus r.status r.reason) ≠ "" := by
    cases hxml : ofXml? r.body with
    | some text => exact ne_empty_of_ofXml? hxml
    | none =>
      cases htext : ofText? r.body with
      | some text => exact ne_empty_of_ofText? htext
      | none => exact ofStatus_ne_empty r.status r.reason
  rw [← Except.ok.inj h]
  cases hjson : body.bind ofJson? with
  | none => simpa [JsonText.isEmpty] using hplain
  | some t =>
    obtain ⟨v, -, hv⟩ := Option.bind_eq_some_iff.1 hjson
    unfold ofJson? at hv
    cases hfirst : candidate? ((v.field "error").field "message") with
    | some u =>
      rw [hfirst] at hv
      rw [Option.getD_some, ← Option.some.inj hv]
      exact isEmpty_of_candidate? hfirst
    | none =>
      rw [hfirst] at hv
      exact isEmpty_of_candidate? hv

end ErrorMessage

/-- The error of an error response has its status and its message. -/
theorem Response.refusal_eq_ok {r : Response} {url : JsonText} {e : ServiceError}
    (h : r.refusal url = .ok e) :
    ∃ message, ErrorMessage.ofResponse r = .ok message ∧ e.status = .int r.status ∧
      e.message = .textual message := by
  obtain ⟨message, hmessage, h⟩ := Fault.exists_of_bind_eq_ok h
  refine ⟨message, hmessage, ?_⟩
  rw [← Except.ok.inj h]
  refine ⟨rfl, ?_⟩
  have hpresent : (Value.textual message).isPresent = true := by
    simp [Value.isPresent, Scalar.isPresent, ErrorMessage.isEmpty_of_ofResponse hmessage]
  simp only [ServiceError.ofBody, ServiceError.messageOr, Value.orElse, hpresent, if_true]

/-- An error response whose body is nested too deeply is no refusal, since no message can be read. -/
theorem Response.refusal_of_tooDeep {r : Response} (h : Json.read? r.body = .error .tooDeep) (url : JsonText) :
    r.refusal url = .error .tooDeep := by
  unfold refusal ErrorMessage.ofResponse
  rw [h]
  rfl

/-! ## Failures -/

/-- The text that names the content type of an answer that is not JSON. -/
def Page.notJsonText (payload : Value) : JsonText :=
  ((payload.field "content_type").orElse (.text "unknown content type")).asText.behind
    "Expected a JSON response, got ".toList

/-- Whether a failure says what a request came to: it has the status and the message of an error response; it
names the content type of a response that is not JSON; or it has the message of the transport. -/
def RequestFailure.Reports : RequestFailure → Outcome → Prop
  | .refused e, .response r =>
    ∃ message, e.message = .textual message ∧
      if 400 ≤ r.status then e.status = .int r.status ∧ ErrorMessage.ofResponse r = .ok message
      else e.status = .int 200 ∧ ∃ payload, r.payload = .ok payload ∧ Page.isWrapped payload = true ∧
        message = Page.notJsonText payload
  | .transport kind message, .failure kind' message' => kind = kind' ∧ message = message'
  | _, _ => False

/-- A wrapped body that can be shown makes a failure that names its content type; any other is a fault. -/
theorem Page.notJson_cases (payload : Value) (url : JsonText) :
    (∃ e shown, Page.notJson payload url = .request (.refused e) ∧ e.status = .int 200 ∧
      e.message = .textual (Page.notJsonText payload) ∧
      ServiceError.snippet? (payload.field "raw") = some shown) ∨
    Page.notJson payload url = .wrongKind ∧ ServiceError.snippet? (payload.field "raw") = none := by
  have hpresent : (Value.textual (Page.notJsonText payload)).isPresent = true := by
    unfold Page.notJsonText JsonText.behind
    split <;> simp [Value.isPresent, Scalar.isPresent, JsonText.isEmpty, JsonText.ofChars]
  unfold Page.notJson ServiceError.ofParts?
  cases hshown : ServiceError.snippet? (payload.field "raw") with
  | none => exact .inr ⟨rfl, rfl⟩
  | some shown =>
    exact .inl ⟨_, shown, rfl, rfl, if_pos hpresent, rfl⟩

theorem Json.eq_tooDeep_of_read? {s : String} {fault : Fault} (h : read? s = .error fault) :
    fault = .tooDeep := by
  unfold read? at h
  split at h
  · contradiction
  · exact (Except.error.inj h).symm
  · contradiction

theorem Value.eq_notText_of_toTextOrEmpty {v : Value} {fault : Fault} (h : v.toTextOrEmpty = .error fault) :
    fault = .notText := by
  unfold toTextOrEmpty toText at h
  split at h
  · contradiction
  · exact (Except.error.inj h).symm

/-- The total of a payload fails to be read only where a number is too large. -/
theorem Envelope.eq_outOfRange_of_firstCount {vs : List Value} {fault : Fault}
    (h : firstCount vs = .error fault) :
    fault = .outOfRange ∧ ∃ n, .int n ∈ vs ∧ Binary64.ofInt? n = none := by
  induction vs with
  | nil => contradiction
  | cons v rest ih =>
    rcases Fault.eq_error_of_bind h with hfirst | ⟨count, -, hrest⟩
    · unfold count? at hfirst
      split at hfirst
      · rename_i n
        cases hn : Binary64.ofInt? n with
        | some x => simp [hn] at hfirst
        | none =>
          simp only [hn, Except.error.injEq] at hfirst
          exact ⟨hfirst.symm, n, List.mem_cons_self, hn⟩
      · contradiction
      · contradiction
      · contradiction
    · cases count with
      | some n => contradiction
      | none =>
        obtain ⟨hfault, n, hn, hlarge⟩ := ih hrest
        exact ⟨hfault, n, List.mem_cons_of_mem v hn, hlarge⟩

/-! ## Answers -/

/-- A response that was received is no error; what else a request can come to is a failure or a fault. -/
theorem Outcome.received_eq_ok {outcome : Outcome} {url : JsonText} {r : Response}
    (h : outcome.received url = .ok r) : outcome = .response r ∧ r.status < 400 := by
  cases outcome with
  | response r' =>
    by_cases herror : 400 ≤ r'.status
    · simp only [received, if_pos herror] at h
      cases hrefusal : r'.refusal url <;> simp [hrefusal, Except.bind] at h
    · simp only [received, if_neg herror, Except.ok.injEq] at h
      exact ⟨h ▸ rfl, h ▸ Int.not_le.1 herror⟩
  | failure kind message => contradiction
  | unsendable => contradiction

theorem Outcome.received_eq_error {outcome : Outcome} {url : JsonText} {fault : Fault}
    (h : outcome.received url = .error fault) :
    (∃ failure, fault = .request failure ∧ failure.Reports outcome) ∨
    outcome = .unsendable ∧ fault = .unsendable ∨
    ∃ r, outcome = .response r ∧ Json.read? r.body = .error fault := by
  cases outcome with
  | response r =>
    by_cases herror : 400 ≤ r.status
    · simp only [received, if_pos herror] at h
      rcases Fault.eq_error_of_bind h with hfault | ⟨e, he, h⟩
      · rcases Fault.eq_error_of_bind hfault with hmessage | ⟨message, -, hnone⟩
        · rcases Fault.eq_error_of_bind hmessage with hread | ⟨body, -, hnone⟩
          · exact .inr (.inr ⟨r, rfl, hread⟩)
          · contradiction
        · contradiction
      · obtain ⟨message, hmessage, hstatus, htext⟩ := Response.refusal_eq_ok he
        refine .inl ⟨.refused e, (Except.error.inj h).symm, message, htext, ?_⟩
        rw [if_pos herror]
        exact ⟨hstatus, hmessage⟩
    · simp [received, if_neg herror] at h
  | failure kind message => exact .inl ⟨_, (Except.error.inj h).symm, rfl, rfl⟩
  | unsendable => exact .inr (.inl ⟨rfl, (Except.error.inj h).symm⟩)

theorem Page.ofOutcome_of_error {r : Response} (h : 400 ≤ r.status) (url : JsonText) :
    Page.ofOutcome (.response r) url = r.refusal url >>= fun e => .error (.request (.refused e)) := by
  simp only [ofOutcome, Outcome.payload, Outcome.received, if_pos h]
  cases r.refusal url <;> rfl

theorem Page.ofOutcome_of_no_error {r : Response} (h : ¬400 ≤ r.status) (url : JsonText) :
    Page.ofOutcome (.response r) url = r.payload >>= (Page.ofPayload · url) := by
  simp only [ofOutcome, Outcome.payload, Outcome.received, if_neg h]
  rfl

/-- The value of a response fails to be read where its content type is no text or its body is nested too
deeply. -/
theorem Response.payload_eq_error {r : Response} {fault : Fault} (h : r.payload = .error fault) :
    fault = .notText ∧ r.contentType.toTextOrEmpty = .error .notText ∨
    fault = .tooDeep ∧ Json.read? r.body = .error .tooDeep := by
  rcases Fault.eq_error_of_bind h with htype | ⟨contentType, -, hbody⟩
  · have hfault := Value.eq_notText_of_toTextOrEmpty htype
    exact .inl ⟨hfault, hfault ▸ htype⟩
  · split at hbody
    · rcases Fault.eq_error_of_bind hbody with hread | ⟨v, -, hnone⟩
      · have hfault := Json.eq_tooDeep_of_read? hread
        exact .inr ⟨hfault, hfault ▸ hread⟩
      · contradiction
    · contradiction

/-- **Why a request gives no page.** Either it has failed, which the failure reports, or its answer cannot be
taken: the transport refused the request, the body is nested too deeply, the content type is no text, the body
is like a wrapped one that cannot be shown, or its total is too large. -/
theorem Page.ofOutcome_eq_error {outcome : Outcome} {url : JsonText} {fault : Fault}
    (h : Page.ofOutcome outcome url = .error fault) :
    (∃ failure, fault = .request failure ∧ failure.Reports outcome) ∨
    fault = .unsendable ∧ outcome = .unsendable ∨
    ∃ r, outcome = .response r ∧
      (fault = .tooDeep ∧ Json.read? r.body = .error .tooDeep ∨
      r.status < 400 ∧ (fault = .notText ∧ r.contentType.toTextOrEmpty = .error .notText ∨
        ∃ payload, r.payload = .ok payload ∧
          (fault = .wrongKind ∧ Page.isWrapped payload = true ∧
              ServiceError.snippet? (payload.field "raw") = none ∨
            fault = .outOfRange ∧ Page.isWrapped payload = false ∧
              Envelope.total payload = .error .outOfRange))) := by
  rcases Fault.eq_error_of_bind h with hpayload | ⟨payload, hpayload, hpage⟩
  · rcases Fault.eq_error_of_bind hpayload with hnone | ⟨r, hr, hunread⟩
    · rcases Outcome.received_eq_error hnone with hfailure | ⟨houtcome, hfault⟩ | ⟨r, hr, h⟩
      · exact .inl hfailure
      · exact .inr (.inl ⟨hfault, houtcome⟩)
      · have hfault := Json.eq_tooDeep_of_read? h
        exact .inr (.inr ⟨r, hr, .inl ⟨hfault, hfault ▸ h⟩⟩)
    · obtain ⟨hr, hstatus⟩ := Outcome.received_eq_ok hr
      refine .inr (.inr ⟨r, hr, ?_⟩)
      rcases Response.payload_eq_error hunread with htype | hdeep
      · exact .inr ⟨hstatus, .inl htype⟩
      · exact .inl hdeep
  · obtain ⟨r, hr, hpayload⟩ := Fault.exists_of_bind_eq_ok hpayload
    obtain ⟨hr, hstatus⟩ := Outcome.received_eq_ok hr
    unfold Page.ofPayload at hpage
    cases hwrapped : Page.isWrapped payload with
    | true =>
      rw [if_pos hwrapped, Except.error.injEq] at hpage
      rcases Page.notJson_cases payload url with ⟨e, _, he, hcode, htext, -⟩ | ⟨hkind, hshown⟩
      · refine .inl ⟨.refused e, hpage ▸ he, ?_⟩
        rw [hr]
        refine ⟨_, htext, ?_⟩
        rw [if_neg (Int.not_le.2 hstatus)]
        exact ⟨hcode, payload, hpayload, hwrapped, rfl⟩
      · exact .inr (.inr ⟨r, hr, .inr ⟨hstatus, .inr ⟨payload, hpayload, .inl
          ⟨hpage ▸ hkind, hwrapped, hshown⟩⟩⟩⟩)
    | false =>
      rw [if_neg (by simp [hwrapped])] at hpage
      cases htotal : Envelope.total payload with
      | ok total => simp [htotal, Except.map] at hpage
      | error fault' =>
        simp only [htotal, Except.map, Except.error.injEq] at hpage
        have hrange := (Envelope.eq_outOfRange_of_firstCount htotal).1
        exact .inr (.inr ⟨r, hr, .inr ⟨hstatus, .inr ⟨payload, hpayload, .inr
          ⟨hpage ▸ hrange, hwrapped, hrange ▸ htotal⟩⟩⟩⟩)

end ODataBrowser
