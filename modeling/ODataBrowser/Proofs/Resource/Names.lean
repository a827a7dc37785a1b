import Mathlib.Data.List.Nodup
import ODataBrowser.Proofs.Resource.Metadata
import ODataBrowser.Proofs.Service.Discovery
import ODataBrowser.Proofs.Service.Location

/-!
# The names of what is discovered

A name leads to one resource only if no other resource has it. Discovery lists one resource for each declaration of a
service document, so their names are distinct just if those declared are. Of a metadata document only the entity types
are listed once each, so the names are distinct just if those of entity sets are, those of function imports are, and no
function import is called like a set or a type (`nodup_names_of_discover`). A service can use a name twice
(`discover_repeats_name`).
-/

namespace ODataBrowser

open ServiceDocument Text

/-! ## Declared names -/

/-- The name that an entry of a JSON document declares. -/
def entryName? (item : Value) : Option JsonText :=
  if (item.field "name").isPresent then some (item.field "name").asText else none

/-- The names that the entries of a JSON document declare, in document order. -/
def entryNames (document : Value) : List JsonText :=
  ((Envelope.items? (document.field "value")).getD []).filterMap entryName?

/-- The name that an element of an Atom document declares: a collection its title or address, a function import what its
attributes say. -/
def elementName? (node : Xml.Node) : Option JsonText :=
  let name := if node.isNamed "collection" then collectionName node
    else if node.isNamed "function-import" then firstNonEmpty [node.attr "name", node.attr "Title"]
    else []
  if name.isEmpty then none else some (.ofChars name)

/-- The names that the elements of an Atom document declare, in document order. -/
def elementNames (root : Xml.Node) : List JsonText :=
  root.elements.filterMap elementName?

/-! ## Names of listed resources -/

theorem name_item? (base : String) (item : Value) : (item? base item).map (·.name) = entryName? item := by
  unfold item? entryName?
  dsimp only
  split <;> rfl

theorem names_ofJson (document : Value) (base : String) :
    (ofJson document base).map (·.name) = entryNames document := by
  rw [ofJson, entryNames, List.map_filterMap]
  exact List.filterMap_congr fun item _ => name_item? base item

theorem name_resource? (base : String) (node : Xml.Node) : (resource? base node).map (·.name) = elementName? node := by
  unfold resource? elementName?
  dsimp only
  split
  case isTrue =>
    unfold collection?
    dsimp only
    split <;> rfl
  case isFalse =>
    split
    case isTrue =>
      unfold functionImport?
      dsimp only
      split <;> rfl
    case isFalse => rfl

theorem names_ofXml (root : Xml.Node) (base : String) : (ofXml root base).map (·.name) = elementNames root := by
  rw [ofXml, elementNames, List.map_filterMap]
  exact List.filterMap_congr fun node _ => name_resource? base node

theorem names_sortResources (resources : List Resource) :
    ((sortResources resources).map (·.name)).Perm (resources.map (·.name)) :=
  (List.mergeSort_perm _ _).map _

namespace Metadata

theorem names_resources (document : Option String) (base : String) :
    ((resources document base).map (·.name)).Perm ((names document).map fun d => .string d.1) := by
  refine (names_sortResources _).trans (List.Perm.of_eq ?_)
  rw [List.map_map]
  refine List.map_congr_left ?_
  rintro ⟨name, kind⟩ -
  exact congrArg JsonText.string String.ofList_toList

theorem exists_of_names_ne_nil {document : Option String} (h : names document ≠ []) :
    ∃ text root, document = some text ∧ Xml.read? text = some root ∧ names document = declarations root := by
  cases document with
  | none => exact absurd rfl h
  | some text =>
    cases hread : Xml.read? text with
    | none => exact absurd (by rw [names, Option.bind_some, hread]; rfl) h
    | some root => exact ⟨text, root, rfl, hread, names_of_read hread⟩

theorem map_fst_declarations (root : Xml.Node) :
    (declarations root).map (·.1) = declaredNames "EntitySet" root ++
      newNames (declaredNames "EntitySet" root) (declaredNames "EntityType" root) ++
      declaredNames "FunctionImport" root := by
  have hnames : ∀ (kind : ResourceKind) (names : List String), (names.map (·, kind)).map (·.1) = names := by
    intro kind names
    rw [List.map_map]
    exact List.map_id names
  rw [declarations, List.map_append, List.map_append, hnames, hnames, hnames]

/-- The declared names are distinct just if those of entity sets are, those of function imports are, and no set or type
is called like a function import. -/
theorem nodup_declarations_iff (root : Xml.Node) :
    ((declarations root).map (·.1)).Nodup ↔ (declaredNames "EntitySet" root).Nodup ∧
      (declaredNames "FunctionImport" root).Nodup ∧
      (declaredNames "FunctionImport" root).Disjoint
        (declaredNames "EntitySet" root ++ declaredNames "EntityType" root) := by
  rw [map_fst_declarations, List.nodup_append', List.nodup_append']
  have htypes := nodup_newNames (declaredNames "EntitySet" root) (declaredNames "EntityType" root)
  have hnew : (declaredNames "EntitySet" root).Disjoint
      (newNames (declaredNames "EntitySet" root) (declaredNames "EntityType" root)) :=
    fun name hset htype => (mem_newNames.1 htype).2 hset
  -- What is listed of the sets and the types has the same names as all of them.
  have hmem : ∀ name, name ∈ declaredNames "EntitySet" root ++
      newNames (declaredNames "EntitySet" root) (declaredNames "EntityType" root) ↔
      name ∈ declaredNames "EntitySet" root ++ declaredNames "EntityType" root := by
    intro name
    rw [List.mem_append, List.mem_append, mem_newNames]
    constructor
    · rintro (hset | ⟨htype, -⟩)
      · exact .inl hset
      · exact .inr htype
    · rintro (hset | htype)
      · exact .inl hset
      · by_cases hset : name ∈ declaredNames "EntitySet" root
        · exact .inl hset
        · exact .inr ⟨htype, hset⟩
  constructor
  · rintro ⟨⟨hsets, -, -⟩, hfunctions, hdisjoint⟩
    exact ⟨hsets, hfunctions, fun name hfunction hother => hdisjoint ((hmem name).2 hother) hfunction⟩
  · rintro ⟨hsets, hfunctions, hdisjoint⟩
    exact ⟨⟨hsets, htypes, hnew⟩, hfunctions, fun name hlisted hfunction =>
      hdisjoint hfunction ((hmem name).1 hlisted)⟩

end Metadata

variable {service metadata : Option String} {base : String} {cause : Option RequestFailure} {found : List Resource}

/-! ## Resources in order -/

theorem sortResources_of_pairwise {resources : List Resource}
    (h : resources.Pairwise fun a b => nameLE baseForm a.name b.name = true) : sortResources resources = resources :=
  List.mergeSort_of_pairwise h

/-- Resources that a metadata document declares in order are discovered as they stand. -/
theorem discover_none_of_pairwise
    (hdeclared : (Metadata.names metadata).map (fun d => .below base d.1.toList d.2 d.1.toList) = found)
    (h : found.Pairwise fun a b => nameLE baseForm a.name b.name = true) (hne : found ≠ []) :
    discover none metadata base cause = .ok found := by
  have hresources : Metadata.resources metadata base = found := by
    refine Eq.trans ?_ (sortResources_of_pairwise h)
    exact congrArg sortResources hdeclared
  rw [discover_none, hresources, if_neg hne]

/-! ## Discovery -/

/-- **The names of what is discovered** are those that the entries of a JSON document declare, or the elements of an Atom
document, each as often as it is declared, or those of a metadata document. They are distinct just if no two entries or
no two elements declare the same name, or if in the metadata document the names of entity sets are distinct, those of
function imports are distinct, and none of these is the name of an entity set or an entity type. -/
theorem nodup_names_of_discover (hfound : discover service metadata base cause = .ok found) :
    (∃ text document, service = some text ∧ Json.read? text = .ok (some document) ∧
      (found.map (·.name)).Perm (entryNames document) ∧
      ((found.map (·.name)).Nodup ↔ (entryNames document).Nodup)) ∨
    (∃ text root, service = some text ∧ Xml.read? text = some root ∧
      (found.map (·.name)).Perm (elementNames root) ∧
      ((found.map (·.name)).Nodup ↔ (elementNames root).Nodup)) ∨
    ∃ text root, metadata = some text ∧ Xml.read? text = some root ∧
      (found.map (·.name)).Perm ((Metadata.declarations root).map fun d => .string d.1) ∧
      ((found.map (·.name)).Nodup ↔ (Metadata.declaredNames "EntitySet" root).Nodup ∧
        (Metadata.declaredNames "FunctionImport" root).Nodup ∧
        (Metadata.declaredNames "FunctionImport" root).Disjoint
          (Metadata.declaredNames "EntitySet" root ++ Metadata.declaredNames "EntityType" root)) := by
  rcases cases_of_discover hfound with ⟨text, document, rfl, hread, rfl⟩ | ⟨text, root, rfl, hread, rfl⟩ | ⟨rfl, hne⟩
  · have hperm := names_sortResources (ofJson document base)
    rw [names_ofJson] at hperm
    exact .inl ⟨text, document, rfl, hread, hperm, hperm.nodup_iff⟩
  · have hperm := names_sortResources (ofXml root base)
    rw [names_ofXml] at hperm
    exact .inr (.inl ⟨text, root, rfl, hread, hperm, hperm.nodup_iff⟩)
  · have hnames : Metadata.names metadata ≠ [] := by
      intro hnil
      rw [Metadata.resources, hnil] at hne
      exact hne List.mergeSort_nil
    obtain ⟨text, root, rfl, hread, hdeclared⟩ := Metadata.exists_of_names_ne_nil hnames
    have hperm := Metadata.names_resources (some text) base
    rw [hdeclared] at hperm
    refine .inr (.inr ⟨text, root, rfl, hread, hperm, ?_⟩)
    -- Names of a metadata document are strings, which are distinct as texts just if they are distinct.
    have hstring : Function.Injective JsonText.string := fun _ _ => JsonText.string.inj
    rw [hperm.nodup_iff, ← Metadata.nodup_declarations_iff, ← List.nodup_map_iff hstring, List.map_map]
    rfl

/-- A metadata document that declares an entity type twice, and one with the name of an entity set. -/
theorem nodup_names_of_discover_of_types :
    let document := "<e><EntityType Name=\"A\"/><EntitySet Name=\"A\"/><EntityType Name=\"B\"/><EntityType Name=\"B\"/></e>"
    let found : List Resource :=
      [⟨.string "A", .entitySet, .string "https://host/svc/A"⟩, ⟨.string "B", .entityType, .string "https://host/svc/B"⟩]
    discover none (some document) "https://host/svc" none = .ok found ∧ (found.map (·.name)).Nodup := by
  intro document found
  have hfound : discover none (some document) "https://host/svc" none = .ok found :=
    discover_none_of_pairwise (by decide +kernel) (by decide +kernel) (List.cons_ne_nil _ _)
  rcases nodup_names_of_discover hfound with ⟨_, _, h, -⟩ | ⟨_, _, h, -⟩ | ⟨text, root, htext, hread, -, hnodup⟩
  · contradiction
  · contradiction
  · obtain rfl := Option.some.inj htext
    have hdeclared (word : String) : some (Metadata.declaredNames word root) =
        (Xml.read? document).map (Metadata.declaredNames word) := by rw [hread]; rfl
    have hsets : Metadata.declaredNames "EntitySet" root = ["A"] :=
      Option.some.inj ((hdeclared "EntitySet").trans (by decide +kernel))
    have hfunctions : Metadata.declaredNames "FunctionImport" root = [] :=
      Option.some.inj ((hdeclared "FunctionImport").trans (by decide +kernel))
    refine ⟨hfound, hnodup.2 ⟨?_, ?_, ?_⟩⟩
    · rw [hsets]
      exact List.nodup_singleton "A"
    · rw [hfunctions]
      exact List.nodup_nil
    · rw [hfunctions]
      exact List.disjoint_nil_left _

/-- Two entries of a service document declare the same name at different locations, and both are discovered. So are an
entity set and a function import of a metadata document. -/
theorem discover_repeats_name :
    let document := "\x7b\"value\":[\x7b\"name\":\"A\"\x7d,\x7b\"name\":\"A\",\"url\":\"B\"\x7d]\x7d"
    let entries : List Resource :=
      [⟨.string "A", .resource, .string "https://host/svc/A"⟩, ⟨.string "A", .resource, .string "B"⟩]
    let metadata := "<e><EntitySet Name=\"A\"/><FunctionImport Name=\"A\"/></e>"
    let declared : List Resource :=
      [⟨.string "A", .entitySet, .string "https://host/svc/A"⟩, ⟨.string "A", .functionImport, .string "https://host/svc/A"⟩]
    discover (some document) none "https://host/svc" none = .ok entries ∧ ¬(entries.map (·.name)).Nodup ∧
    discover none (some metadata) "https://host/svc" none = .ok declared ∧ ¬(declared.map (·.name)).Nodup := by
  intro document entries metadata declared
  have hlisted : listed document "https://host/svc" = .ok entries := Fault.eq_ok_of_toOption (by decide +kernel)
  have hresources : resources (some document) "https://host/svc" = .ok entries := by
    change (listed document "https://host/svc").map sortResources = .ok entries
    rw [hlisted]
    exact congrArg Except.ok (sortResources_of_pairwise (by decide))
  refine ⟨?_, ?_, ?_, ?_⟩
  · rw [discover_of_resources hresources, if_neg (List.cons_ne_nil _ _)]
  · simp [entries]
  · exact discover_none_of_pairwise (by decide +kernel) (by decide +kernel) (List.cons_ne_nil _ _)
  · simp [declared]

end ODataBrowser
