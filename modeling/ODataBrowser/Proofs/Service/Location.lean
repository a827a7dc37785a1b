import ODataBrowser.Proofs.Json.Text
import ODataBrowser.Proofs.Pager.Loading
import ODataBrowser.Service.Discovery

/-!
# The advertised location of a resource

A service says of a resource what its name is, and it may say where it is. A page of a resource is always asked for
below the root address, at the name (`resourceUrl`). This is the location of the resource just if the service
does not say where it is, or says that it is where its name leads to (`resourceUrl_eq_url_iff_of_discover`).
-/

namespace ODataBrowser

open Query ServiceDocument Text

/-! ## What a service says -/

/-- Where a service says that a resource is. -/
inductive Advertised where
  /-- At an address, which is taken as it stands. -/
  | address (url : JsonText)
  /-- At a path below the root address. -/
  | relative (path : List Char)
  /-- It does not say. -/
  | nowhere

namespace Advertised

/-- What an entry of a JSON document says. -/
def ofItem (item : Value) : Advertised :=
  if (item.field "url").isPresent then .address (item.field "url").asText else .nowhere

/-- What a path says, unless it is empty. -/
def ofPath (path : List Char) : Advertised :=
  if path.isEmpty then .nowhere else .relative path

/-- The location of a resource of the given name: the one that is said, or else the one of its name. -/
def location (base : String) (name : JsonText) : Advertised → JsonText
  | .address url => url
  | .relative path => .ofChars (joinUrl base.toList path)
  | .nowhere => resourceUrl base name

/-- Whether the name leads to where the resource is said to be. -/
def Agrees (base : String) (name : JsonText) : Advertised → Prop
  | .address url => url = resourceUrl base name
  | .relative path => ∃ cs, name = .ofChars cs ∧ path.dropWhile (· == '/') = cs.dropWhile (· == '/')
  | .nowhere => True

end Advertised

/-- Whether a service document or a metadata document declares a resource of the given name, and says that it is there:
by an entry of a JSON list, by an element of an Atom document, or by an element of a metadata document. The address of
a collection says nothing where it holds no more than slashes, whereas that of a function import is then the root. -/
inductive Declares (service metadata : Option String) : JsonText → Advertised → Prop where
  | entry {text : String} {document item : Value} {items : List Value} (text_eq : service = some text)
      (read : Json.read? text = .ok (some document)) (items_eq : document.field "value" = .list items)
      (mem : item ∈ items) (name : (item.field "name").isPresent) :
      Declares service metadata (item.field "name").asText (.ofItem item)
  | collection {text : String} {root node : Xml.Node} (text_eq : service = some text) (read : Xml.read? text = some root)
      (mem : node ∈ root.elements) (tag : node.isNamed "collection") (name : collectionName node ≠ []) :
      Declares service metadata (.ofChars (collectionName node)) (.ofPath ((node.attr "href").dropWhile (· == '/')))
  | functionImport {text : String} {root node : Xml.Node} (text_eq : service = some text)
      (read : Xml.read? text = some root) (mem : node ∈ root.elements) (tag : node.isNamed "function-import")
      (name : firstNonEmpty [node.attr "name", node.attr "Title"] ≠ []) :
      Declares service metadata (.ofChars (firstNonEmpty [node.attr "name", node.attr "Title"]))
        (.ofPath (node.attr "href"))
  | metadata {name : String} {kind : ResourceKind} (mem : (name, kind) ∈ Metadata.names metadata) :
      Declares service metadata (.string name) .nowhere

/-! ## Locations -/

theorem joinUrl_eq_iff {base path other : List Char} :
    joinUrl base path = joinUrl base other ↔ path.dropWhile (· == '/') = other.dropWhile (· == '/') := by
  simp [joinUrl]

theorem resourceUrl_ofChars (base : String) (cs : List Char) :
    resourceUrl base (.ofChars cs) = .ofChars (joinUrl base.toList cs) := by
  simp [resourceUrl, JsonText.ofChars]

/-- The address of a name is the location of the resource just if the two agree. -/
theorem resourceUrl_eq_location_iff (base : String) (name : JsonText) (a : Advertised) :
    resourceUrl base name = a.location base name ↔ a.Agrees base name := by
  cases a with
  | address url => exact eq_comm
  | nowhere => exact iff_of_true rfl trivial
  | relative path =>
    cases name with
    | string s =>
      constructor
      · intro h
        refine ⟨s.toList, by simp [JsonText.ofChars], ?_⟩
        exact (joinUrl_eq_iff.1 (JsonText.ofChars_inj.1 h)).symm
      · rintro ⟨cs, hname, hpath⟩
        rw [hname, resourceUrl_ofChars, Advertised.location, joinUrl_eq_iff.2 hpath]
    | broken before first after =>
      refine iff_of_false ?_ ?_
      · simp [resourceUrl, JsonText.behind, Advertised.location, JsonText.ofChars]
      · rintro ⟨cs, hname, -⟩
        simp [JsonText.ofChars] at hname

/-! ## Declared resources -/

theorem firstNonEmpty_pair {first : List Char} (second : List Char) (h : second ≠ []) :
    firstNonEmpty [first, second] = if first.isEmpty then second else first := by
  cases first with
  | nil => simp [firstNonEmpty, h]
  | cons c rest => simp [firstNonEmpty]

/-- A path that may be empty, with the name as what to take then. -/
theorem ofChars_joinUrl_firstNonEmpty (base : String) (path : List Char) {name : List Char} (h : name ≠ []) :
    JsonText.ofChars (joinUrl base.toList (firstNonEmpty [path, name])) =
      (Advertised.ofPath path).location base (.ofChars name) := by
  rw [firstNonEmpty_pair name h, Advertised.ofPath]
  split
  · rw [Advertised.location, resourceUrl_ofChars]
  · rfl

theorem mem_of_mem_sortResources {resources : List Resource} {d : Resource} (h : d ∈ sortResources resources) :
    d ∈ resources :=
  (List.mergeSort_perm _ _).subset h

variable {service metadata : Option String} {text base : String} {d : Resource}

/-- What is discovered is listed by the service document, which is read as JSON or else as XML, or by the metadata
document. -/
theorem cases_of_discover {cause : Option RequestFailure} {found : List Resource}
    (h : discover service metadata base cause = .ok found) :
    (∃ text document, service = some text ∧ Json.read? text = .ok (some document) ∧
      found = sortResources (ofJson document base)) ∨
    (∃ text root, service = some text ∧ Xml.read? text = some root ∧ found = sortResources (ofXml root base)) ∨
    found = Metadata.resources metadata base ∧ found ≠ [] := by
  obtain ⟨listing, hlisting, hfound⟩ := Fault.exists_of_bind_eq_ok h
  split at hfound
  case h_1 =>
    split at hfound
    case h_1 => contradiction
    case h_2 hne =>
      obtain rfl := Except.ok.inj hfound
      exact .inr (.inr ⟨rfl, hne⟩)
  case h_2 hne =>
    obtain rfl := Except.ok.inj hfound
    cases service with
    | none => exact absurd (Except.ok.inj hlisting).symm hne
    | some text =>
      obtain ⟨listing, hlisted, rfl⟩ := Fault.exists_of_map_eq_ok hlisting
      obtain ⟨document?, hread, hlisted⟩ := Fault.exists_of_bind_eq_ok hlisted
      split at hlisted
      case h_1 =>
        obtain rfl := Except.ok.inj hlisted
        cases hxml : Xml.read? text with
        | none =>
          rw [hxml] at hne
          exact absurd List.mergeSort_nil hne
        | some root => exact .inr (.inl ⟨text, root, rfl, hxml, rfl⟩)
      case h_2 hlist =>
        obtain rfl := Except.ok.inj hlisted
        cases document? with
        | none => exact absurd rfl hlist
        | some document => exact .inl ⟨text, document, rfl, hread, rfl⟩

theorem exists_declares_of_json {document : Value} (hread : Json.read? text = .ok (some document))
    (h : d ∈ ofJson document base) :
    ∃ a, Declares (some text) metadata d.name a ∧ d.url = a.location base d.name := by
  obtain ⟨item, hmem, hitem⟩ := List.mem_filterMap.1 h
  unfold item? at hitem
  dsimp only at hitem
  split at hitem
  case isFalse => contradiction
  case isTrue hname =>
    obtain rfl := Option.some.inj hitem
    have hitems : ∃ items, document.field "value" = .list items ∧ item ∈ items := by
      unfold Envelope.items? at hmem
      split at hmem
      · exact ⟨_, ‹_›, hmem⟩
      · exact absurd hmem List.not_mem_nil
    obtain ⟨items, hitems, hmem⟩ := hitems
    refine ⟨_, .entry rfl hread hitems hmem hname, ?_⟩
    unfold Advertised.ofItem Value.orElse
    split <;> rfl

theorem exists_declares_of_xml {root : Xml.Node} (hread : Xml.read? text = some root) (h : d ∈ ofXml root base) :
    ∃ a, Declares (some text) metadata d.name a ∧ d.url = a.location base d.name := by
  obtain ⟨node, hmem, hnode⟩ := List.mem_filterMap.1 h
  unfold resource? at hnode
  split at hnode
  case isTrue htag =>
    unfold collection? at hnode
    dsimp only at hnode
    split at hnode
    case isTrue => contradiction
    case isFalse hname =>
      obtain rfl := Option.some.inj hnode
      have hname : collectionName node ≠ [] := by simpa using hname
      exact ⟨_, .collection rfl hread hmem htag hname, ofChars_joinUrl_firstNonEmpty base _ hname⟩
  case isFalse =>
    split at hnode
    case isFalse => contradiction
    case isTrue htag =>
      unfold functionImport? at hnode
      dsimp only at hnode
      split at hnode
      case isTrue => contradiction
      case isFalse hname =>
        obtain rfl := Option.some.inj hnode
        have hname : firstNonEmpty [node.attr "name", node.attr "Title"] ≠ [] := by simpa using hname
        exact ⟨_, .functionImport rfl hread hmem htag hname, ofChars_joinUrl_firstNonEmpty base _ hname⟩

theorem exists_declares_of_metadata (h : d ∈ Metadata.resources metadata base) :
    ∃ a, Declares service metadata d.name a ∧ d.url = a.location base d.name := by
  obtain ⟨⟨name, kind⟩, hmem, rfl⟩ := List.mem_map.1 (mem_of_mem_sortResources h)
  have hname : JsonText.ofChars name.toList = .string name := by rw [JsonText.ofChars, String.ofList_toList]
  simp only [Resource.below, hname]
  exact ⟨.nowhere, .metadata hmem, rfl⟩

/-- What is discovered was declared, and its location is the one that its declaration says. -/
theorem exists_declares_of_discover {cause : Option RequestFailure} {found : List Resource}
    (hfound : discover service metadata base cause = .ok found) (h : d ∈ found) :
    ∃ a, Declares service metadata d.name a ∧ d.url = a.location base d.name := by
  rcases cases_of_discover hfound with ⟨text, document, rfl, hread, rfl⟩ | ⟨text, root, rfl, hread, rfl⟩ | ⟨rfl, -⟩
  · exact exists_declares_of_json hread (mem_of_mem_sortResources h)
  · exact exists_declares_of_xml hread (mem_of_mem_sortResources h)
  · exact exists_declares_of_metadata h

/-- **Resources are read at their names.** A resource that is discovered is declared by one of the documents. Whatever
is asked for by its name is asked for at the address of the name below the root. This is the location of the resource
just if what its declaration says agrees with its name. -/
theorem resourceUrl_eq_url_iff_of_discover {cause : Option RequestFailure} {found : List Resource}
    (hfound : discover service metadata base cause = .ok found) (h : d ∈ found) :
    (∃ a, Declares service metadata d.name a ∧ d.url = a.location base d.name ∧
      (resourceUrl base d.name = d.url ↔ a.Agrees base d.name)) ∧
    ∀ (session : Session) (p : Pager) (arguments : LoadArguments) (outcomes : List Outcome), session.base = base →
      arguments.resource = .textual d.name → ∀ r ∈ (p.load session arguments outcomes).sent,
        ∃ q : PageQuery, q.toUrl (resourceUrl base d.name) = .ok r.url := by
  obtain ⟨a, hdeclares, hurl⟩ := exists_declares_of_discover hfound h
  refine ⟨⟨a, hdeclares, hurl, ?_⟩, fun session p arguments outcomes hbase hresource r hr => ?_⟩
  · rw [hurl]
    exact resourceUrl_eq_location_iff base d.name a
  · obtain ⟨-, q, -, -, hq⟩ := p.exists_query_of_mem_sent session hresource hr
    exact ⟨q, hbase ▸ hq⟩

/-- A collection without a path is read at its title, which the first page is asked for by. -/
theorem resourceUrl_eq_url_of_collection_without_path :
    let document := "<service><collection href=\"/\"><title>Orders</title></collection></service>"
    let d : Resource := ⟨.string "Orders", .entitySet, .string "https://host/svc/Orders"⟩
    let session := Session.anonymous "https://host/svc"
    let load := (Pager.start 25 .none).load session { resource := .text "Orders" } [.json 200 "\x7b\"value\":[]\x7d"]
    discover (some document) none "https://host/svc" none = .ok [d] ∧ d ∈ [d] ∧
    resourceUrl "https://host/svc" d.name = d.url ∧ load.sent.length = 1 ∧
    ∀ r ∈ load.sent, ∃ q : PageQuery, q.toUrl (resourceUrl "https://host/svc" "Orders") = .ok r.url := by
  intro document d session load
  have hfound : discover (some document) none "https://host/svc" none = .ok [d] :=
    Fault.eq_ok_of_toOption (by decide +kernel)
  have hd : d ∈ [d] := List.mem_singleton_self d
  obtain ⟨-, hsent⟩ := resourceUrl_eq_url_iff_of_discover hfound hd
  exact ⟨hfound, hd, by decide +kernel, by decide +kernel, hsent session _ _ _ rfl rfl⟩

/-- A collection whose title is not its path is declared at one place and asked for at another. -/
theorem resourceUrl_ne_url_of_title :
    let document := "<service><collection href=\"Things\"><title>Things Title</title></collection></service>"
    let d : Resource := ⟨.string "Things Title", .entitySet, .string "https://host/svc/Things"⟩
    let load := (Pager.start 25 .none).load (.anonymous "https://host/svc") { resource := .text "Things Title" }
      [.json 200 "\x7b\"value\":[]\x7d"]
    discover (some document) none "https://host/svc" none = .ok [d] ∧ resourceUrl "https://host/svc" d.name ≠ d.url ∧
    load.sent.map (·.url) = (["https://host/svc/Things Title?$format=json&$top=25"] : List JsonText) := by
  intro document d load
  exact ⟨Fault.eq_ok_of_toOption (by decide +kernel), by decide +kernel, by decide +kernel⟩

end ODataBrowser
