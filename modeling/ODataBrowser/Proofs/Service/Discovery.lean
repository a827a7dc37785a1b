import ODataBrowser.Proofs.Json.Refusal
import ODataBrowser.Proofs.Pager.Loading
import ODataBrowser.Proofs.Service.Answer
import ODataBrowser.Service.Discovery

/-!
# Discovery by requests

The resources that a session discovers are those that the two documents list, where a document whose request fails
counts as missing (`Session.discover_of_outcomes`). The metadata document is asked for only where the service document
lists nothing. This holds of all bodies that are not nested too deeply for the JSON reader: one that is ends the
discovery, although the metadata document may list resources (`Session.discover_stopped_by_depth`).
-/

namespace ODataBrowser

/-! ## Fetching a document -/

namespace Outcome

/-- The body of a response that is no error. -/
def body? : Outcome → Option String
  | .response r => if 400 ≤ r.status then none else some r.body
  | _ => none

/-- The failure of a request for an address, if it fails: the service refuses it, or the transport fails. -/
def failure? (outcome : Outcome) (url : JsonText) : Option RequestFailure :=
  match outcome with
  | .response r => if 400 ≤ r.status then (r.refusal url).toOption.map .refused else none
  | .failure kind message => some (.transport kind message)
  | .unsendable => none

/-- Whether a request comes to a response or a failure of the transport. The body of an error response, which is read
for its message, is not nested too deeply. -/
def IsConclusive : Outcome → Prop
  | .response r => 400 ≤ r.status → ∃ v, Json.read? r.body = .ok v
  | .failure _ _ => True
  | .unsendable => False

end Outcome

theorem Response.exists_refusal {r : Response} {v : Option Value} (h : Json.read? r.body = .ok v) (url : JsonText) :
    ∃ e, r.refusal url = .ok e := by
  unfold refusal ErrorMessage.ofResponse
  rw [h]
  exact ⟨_, rfl⟩

/-- A request comes to the text of the document or to a failure. -/
theorem fetched_text {outcome : Outcome} (h : outcome.IsConclusive) (url : JsonText) :
    ∃ document : Fetched, fetched (outcome.text url) = .ok document ∧ document.text? = outcome.body? ∧
      document.failure? = outcome.failure? url := by
  unfold Outcome.text Outcome.received Outcome.body? Outcome.failure?
  cases outcome with
  | response r =>
    by_cases herror : 400 ≤ r.status
    · obtain ⟨v, hv⟩ := h herror
      obtain ⟨e, he⟩ := Response.exists_refusal hv url
      simp only [if_pos herror, he]
      exact ⟨.error (.refused e), rfl, rfl, rfl⟩
    · simp only [if_neg herror]
      exact ⟨.ok r.body, rfl, rfl, rfl⟩
  | failure kind message => exact ⟨.error (.transport kind message), rfl, rfl, rfl⟩
  | unsendable => exact absurd h id

/-! ## The resources of two documents -/

theorem ServiceDocument.exists_resources {document : Option String} (base : String)
    (h : ∀ text ∈ document, ∃ v, Json.read? text = .ok v) : ∃ found, resources document base = .ok found := by
  cases document with
  | none => exact ⟨[], rfl⟩
  | some text =>
    obtain ⟨v, hv⟩ := h text rfl
    unfold resources listed
    simp only [hv, bind, Except.bind]
    split <;> exact ⟨_, rfl⟩

theorem discover_none (metadata : Option String) (base : String) (cause : Option RequestFailure) :
    discover none metadata base cause =
      if Metadata.resources metadata base = [] then .error (.noResources cause)
      else .ok (Metadata.resources metadata base) := by
  unfold discover
  cases h : Metadata.resources metadata base with
  | nil => rfl
  | cons resource rest => rfl

/-- The failure to report changes nothing but the report. -/
theorem discover_none_cause (metadata : Option String) (base : String) (cause : Option RequestFailure) :
    (∀ found, discover none metadata base cause = .ok found ↔ discover none metadata base none = .ok found) ∧
    ((∃ cause', discover none metadata base cause = .error (.noResources cause')) ↔
      discover none metadata base none = .error (.noResources none)) ∧
    ∀ fault, discover none metadata base cause = .error fault → fault = .noResources cause := by
  rw [discover_none, discover_none]
  split
  · exact ⟨by simp, by simp, fun fault h => (Except.error.inj h).symm⟩
  · exact ⟨by simp, by simp, fun fault h => absurd h (by simp)⟩

/-- The metadata document counts only where the service document lists nothing. -/
theorem discover_of_resources {service : Option String} {base : String} {found : List Resource}
    (h : ServiceDocument.resources service base = .ok found) (metadata : Option String)
    (cause : Option RequestFailure) :
    discover service metadata base cause = if found = [] then discover none metadata base cause else .ok found := by
  unfold discover
  rw [h]
  cases found with
  | nil => rfl
  | cons resource rest => rfl

namespace Session

variable (session : Session) {service metadata : Outcome}

/-! ## One request or two -/

/-- What the answer to the request for the service document lists. -/
theorem listedBy_eq {found : List Resource} (h : service.IsConclusive)
    (hfound : ServiceDocument.resources service.body? session.base = .ok found) :
    ∃ document : Fetched, session.listedBy service = .ok (document, found) ∧
      document.failure? = service.failure? session.serviceDocumentRequest.url := by
  obtain ⟨document, hfetched, htext, hfailure⟩ := fetched_text h session.serviceDocumentRequest.url
  refine ⟨document, ?_, hfailure⟩
  unfold listedBy
  rw [hfetched]
  change (ServiceDocument.resources document.text? session.base).bind _ = _
  rw [htext, hfound]
  rfl

/-- A service document that lists resources makes the metadata document needless. -/
theorem discover_of_listed {found : List Resource} (h : service.IsConclusive)
    (hfound : ServiceDocument.resources service.body? session.base = .ok found) (hne : found ≠ [])
    (outcomes : List Outcome) :
    session.discover (service :: outcomes) = ⟨.ok found, [session.serviceDocumentRequest], outcomes⟩ := by
  obtain ⟨document, hlisted, -⟩ := session.listedBy_eq h hfound
  obtain ⟨resource, rest, rfl⟩ := List.exists_cons_of_ne_nil hne
  unfold discover
  dsimp only [nextOutcome]
  rw [hlisted]

/-- Where the service document lists nothing, the metadata document is asked for. -/
theorem discover_of_unlisted (h : service.IsConclusive) (hm : metadata.IsConclusive)
    (hfound : ServiceDocument.resources service.body? session.base = .ok []) (rest : List Outcome) :
    session.discover (service :: metadata :: rest) =
      ⟨ODataBrowser.discover none metadata.body? session.base (metadata.failure? session.metadataRequest.url <|>
        service.failure? session.serviceDocumentRequest.url),
        [session.serviceDocumentRequest, session.metadataRequest], rest⟩ := by
  obtain ⟨document, hlisted, hfailure⟩ := session.listedBy_eq h hfound
  obtain ⟨fetchedMetadata, hfetched, htext, hmfailure⟩ := fetched_text hm session.metadataRequest.url
  have hfallback : session.discoverFromMetadata document metadata =
      ODataBrowser.discover none metadata.body? session.base (metadata.failure? session.metadataRequest.url <|>
        service.failure? session.serviceDocumentRequest.url) := by
    unfold discoverFromMetadata
    rw [hfetched, ← htext, ← hmfailure, ← hfailure]
    rfl
  unfold discover
  dsimp only [nextOutcome]
  rw [hlisted, ← hfallback]

/-- **Discovery finds what the documents list.** Of the documents, each missing where its request fails, a session
discovers the resources that they list, and fails just where they list none: by no other fault, and with the failure
of the request for the metadata document as the cause, or else that of the request for the service document, if one
of them failed. It asks for the service document only, whatever would come of the other request, if that document
lists resources, and for the metadata document after it if not. -/
theorem discover_of_outcomes (h : service.IsConclusive) (hm : metadata.IsConclusive)
    (hread : ∀ text ∈ service.body?, ∃ v, Json.read? text = .ok v) (rest : List Outcome) :
    let exchange := session.discover (service :: metadata :: rest)
    let listed := ODataBrowser.discover service.body? metadata.body? session.base none
    let serviceSuffices := ∃ found ≠ [], ServiceDocument.resources service.body? session.base = .ok found
    (∀ found, exchange.result = .ok found ↔ listed = .ok found) ∧
    ((∃ cause, exchange.result = .error (.noResources cause)) ↔ listed = .error (.noResources none)) ∧
    (∀ fault, exchange.result = .error fault →
      fault = .noResources (metadata.failure? session.metadataRequest.url <|>
        service.failure? session.serviceDocumentRequest.url)) ∧
    (serviceSuffices → exchange.sent = [session.serviceDocumentRequest] ∧
      ∀ outcomes, (session.discover (service :: outcomes)).result = exchange.result) ∧
    (¬serviceSuffices → exchange.sent = [session.serviceDocumentRequest, session.metadataRequest]) := by
  intro exchange listed serviceSuffices
  obtain ⟨found, hfound⟩ := ServiceDocument.exists_resources session.base hread
  have hlisted : listed =
      if found = [] then ODataBrowser.discover none metadata.body? session.base none else .ok found :=
    discover_of_resources hfound metadata.body? none
  by_cases hempty : found = []
  · -- The service document lists nothing, and the metadata document decides.
    subst hempty
    have hnot : ¬serviceSuffices := by
      rintro ⟨found, hne, h⟩
      exact hne (Except.ok.inj (h.symm.trans hfound))
    have hexchange := session.discover_of_unlisted h hm hfound rest
    rw [if_pos rfl] at hlisted
    obtain ⟨hok, herror, hcause⟩ := discover_none_cause metadata.body? session.base
      (metadata.failure? session.metadataRequest.url <|> service.failure? session.serviceDocumentRequest.url)
    rw [hlisted, show exchange = _ from hexchange]
    exact ⟨hok, herror, hcause, fun hlist => absurd hlist hnot, fun _ => rfl⟩
  · have hlist : serviceSuffices := ⟨found, hempty, hfound⟩
    have hexchange := session.discover_of_listed h hfound hempty
    rw [if_neg hempty] at hlisted
    rw [hlisted, show exchange = _ from hexchange (metadata :: rest)]
    refine ⟨fun _ => Iff.rfl, by simp, fun fault h => absurd h (by simp), fun _ => ⟨rfl, fun outcomes => ?_⟩,
      fun hnot => absurd hlist hnot⟩
    rw [hexchange]

/-- Both requests are refused: the failure of the second is the cause. -/
theorem discover_of_outcomes_of_two_errors :
    let session := Session.anonymous "https://host/svc"
    let service := Outcome.response ⟨404, "", [], "not found"⟩
    let metadata := Outcome.response ⟨500, "", [], "boom"⟩
    let exchange := session.discover [service, metadata]
    (service.IsConclusive ∧ metadata.IsConclusive ∧ ∀ text ∈ service.body?, ∃ v, Json.read? text = .ok v) ∧
    exchange.result = .error (.noResources (metadata.failure? session.metadataRequest.url)) ∧
    exchange.sent = [session.serviceDocumentRequest, session.metadataRequest] := by
  intro session service metadata exchange
  have h : service.IsConclusive := fun _ => ⟨none, rfl⟩
  have hm : metadata.IsConclusive := fun _ => ⟨none, rfl⟩
  have hread : ∀ text ∈ service.body?, ∃ v, Json.read? text = .ok v := by simp [service, Outcome.body?]
  obtain ⟨-, herror, hcause, -, htwo⟩ := session.discover_of_outcomes h hm hread []
  have hlisted : ODataBrowser.discover service.body? metadata.body? session.base none =
      .error (.noResources none) := by
    rw [discover_of_resources rfl, if_pos rfl, discover_none, if_pos (by decide +kernel)]
  obtain ⟨cause, hresult⟩ := herror.2 hlisted
  obtain ⟨failure, hfailure⟩ : ∃ failure, metadata.failure? session.metadataRequest.url = some failure := ⟨_, rfl⟩
  refine ⟨⟨h, hm, hread⟩, ?_, htwo ?_⟩
  · rw [hcause _ hresult, hfailure] at hresult
    rw [hfailure]
    exact hresult
  · rintro ⟨found, hne, hfound⟩
    exact hne (Except.ok.inj hfound).symm

/-! ## Bodies that are nested too deeply -/

/-- An error response whose body cannot be read for its message ends the discovery. -/
theorem discover_of_tooDeep {r : Response} (herror : 400 ≤ r.status) (hread : Json.read? r.body = .error .tooDeep)
    (outcomes : List Outcome) :
    session.discover (.response r :: outcomes) = ⟨.error .tooDeep, [session.serviceDocumentRequest], outcomes⟩ := by
  have hlisted : session.listedBy (.response r) = .error .tooDeep := by
    unfold listedBy Outcome.text Outcome.received
    simp only [if_pos herror, Response.refusal_of_tooDeep hread]
    rfl
  unfold discover
  dsimp only [nextOutcome]
  rw [hlisted]

/-- The service document is refused with a body of brackets. The metadata document, which lists a resource, is not
asked for. -/
theorem discover_stopped_by_depth :
    let session := Session.anonymous "https://host/svc"
    let deep := String.ofList (List.replicate 3000 '[' ++ List.replicate 3000 ']')
    let service := Outcome.response ⟨500, "", [], deep⟩
    let metadata := Outcome.response ⟨200, "", [], "<e><EntitySet Name=\"A\"/></e>"⟩
    let exchange := session.discover [service, metadata]
    exchange.result = .error .tooDeep ∧ exchange.sent = [session.serviceDocumentRequest] ∧
    ODataBrowser.discover service.body? metadata.body? session.base none =
      .ok [⟨.string "A", .entitySet, .string "https://host/svc/A"⟩] := by
  intro session deep service metadata exchange
  have hread : Json.read? deep = .error .tooDeep := Json.read?_brackets (by decide) _
  have hexchange : exchange = _ := session.discover_of_tooDeep (r := ⟨500, "", [], deep⟩) (by decide) hread [metadata]
  rw [hexchange]
  refine ⟨rfl, rfl, ?_⟩
  rw [discover_of_resources rfl, if_pos rfl, discover_none]
  have hmetadata : Metadata.resources metadata.body? session.base =
      [⟨.string "A", .entitySet, .string "https://host/svc/A"⟩] := by
    decide +kernel
  rw [hmetadata]
  rfl

end Session

end ODataBrowser
