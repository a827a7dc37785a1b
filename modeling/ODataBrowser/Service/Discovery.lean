import ODataBrowser.Resource.Metadata
import ODataBrowser.Resource.ServiceDocument
import ODataBrowser.Service.Session

/-!
# Discovery

The resources of a service are those of its service document, or, where that lists none or cannot be
had, those of its metadata document. Discovery fails where neither lists any.
-/

namespace ODataBrowser

/-- The resources that two documents list, where `cause` is the failure to report if they list none. -/
def discover (service metadata : Option String) (base : String) (cause : Option RequestFailure) :
    Except Fault (List Resource) := do
  match ← ServiceDocument.resources service base with
  | [] =>
    match Metadata.resources metadata base with
    | [] => .error (.noResources cause)
    | resources => return resources
  | resources => return resources

/-- The resources that two loosely typed documents list. The metadata document is looked at only where the service
document lists none. -/
def discoverIn (service metadata : Value) (base : String) : Except Fault (List Resource) := do
  match ← ServiceDocument.resources (some (← service.toTextOrEmpty)) base with
  | [] => discover none (some (← metadata.toTextOrEmpty)) base none
  | resources => return resources

/-- The text of a document, or the failure of the request for it. -/
abbrev Fetched := Except RequestFailure String

/-- Sets the failure of a request aside; other faults remain. -/
def fetched : Except Fault String → Except Fault Fetched
  | .ok text => .ok (.ok text)
  | .error (.request failure) => .ok (.error failure)
  | .error fault => .error fault

/-- The text of a document that was fetched. -/
def Fetched.text? : Fetched → Option String
  | .ok text => some text
  | .error _ => none

/-- The failure of the request for a document. -/
def Fetched.failure? : Fetched → Option RequestFailure
  | .ok _ => none
  | .error failure => some failure

namespace Session

/-- The request for the service document. -/
def serviceDocumentRequest (s : Session) : Request :=
  s.documentRequest "" [("Accept", .text "application/xml,application/json;q=0.9,*/*;q=0.8")]

/-- The request for the metadata document. -/
def metadataRequest (s : Session) : Request :=
  s.documentRequest "$metadata" [("Accept", .text "application/xml")]

/-- Takes the resources from the metadata document, after the service document listed none. -/
def discoverFromMetadata (s : Session) (service : Fetched) (outcome : Outcome) :
    Except Fault (List Resource) := do
  let metadata ← fetched (outcome.text s.metadataRequest.url)
  discover none metadata.text? s.base (metadata.failure? <|> service.failure?)

/-- The resources that a fetched service document lists. -/
def listedBy (s : Session) (outcome : Outcome) : Except Fault (Fetched × List Resource) := do
  let service ← fetched (outcome.text s.serviceDocumentRequest.url)
  return (service, ← ServiceDocument.resources service.text? s.base)

/-- Discovers the resources of the service. -/
def discover (s : Session) (outcomes : List Outcome) : Exchange (List Resource) :=
  let first := s.serviceDocumentRequest
  let (outcome, pending) := nextOutcome outcomes
  match s.listedBy outcome with
  | .error fault => ⟨.error fault, [first], pending⟩
  | .ok (service, []) =>
    let (outcome, pending) := nextOutcome pending
    ⟨s.discoverFromMetadata service outcome, [first, s.metadataRequest], pending⟩
  | .ok (_, resources) => ⟨.ok resources, [first], pending⟩

end Session

end ODataBrowser
