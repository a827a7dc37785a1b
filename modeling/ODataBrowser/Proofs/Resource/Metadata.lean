import ODataBrowser.Proofs.Xml.Place
import ODataBrowser.Resource.Metadata

/-!
# What a metadata document declares

An element of a metadata document declares the name in its attribute `Name`, unless that is blank (`NamesAt`). All entity
sets and all function imports are listed with their names, in document order. Of the entity types those are listed that
come first with their name and whose name no entity set has (`declarations_of_document`).
-/

namespace ODataBrowser.Metadata

open Text Xml

/-! ## Names in a document -/

/-- Whether an element with the given local name stands at a place of a document and declares a name. The name stands in
the attribute `Name`, maybe between white space, and is not empty. -/
def NamesAt (root : Node) (word : String) (place : List Nat) (name : String) : Prop :=
  ∃ tag attributes content value, root.at? place = some (.element tag attributes content) ∧
    tag.localPart = word.toList ∧ attributes.lookup ⟨[], "Name".toList⟩ = some value ∧ strip value = name.toList ∧
    name ≠ ""

/-- The names that the elements of the given local name declare, with their places. -/
def placedNames (word : String) (root : Node) : List (List Nat × String) :=
  root.placed.filterMap fun (place, node) =>
    if node.isNamed word then (declaredName? node).map (place, ·) else none

theorem declaredName?_eq_some_iff {tag : Name} {attributes : List (Name × List Char)} {content : List Node}
    {name : String} : declaredName? (.element tag attributes content) = some name ↔
      ∃ value, attributes.lookup ⟨[], "Name".toList⟩ = some value ∧ strip value = name.toList ∧ name ≠ "" := by
  have hattr : (Node.element tag attributes content).attr "Name" =
      (attributes.lookup ⟨[], "Name".toList⟩).getD [] := rfl
  rw [declaredName?, hattr]
  constructor
  · intro h
    split at h
    case isTrue => contradiction
    case isFalse hne =>
      obtain rfl := Option.some.inj h
      cases hvalue : attributes.lookup ⟨[], "Name".toList⟩ with
      | none =>
        rw [hvalue] at hne
        exact absurd rfl hne
      | some value =>
        rw [hvalue, Option.getD_some] at hne
        refine ⟨value, rfl, String.toList_ofList.symm, ?_⟩
        intro hempty
        rw [Option.getD_some, String.ofList_eq_empty_iff] at hempty
        rw [hempty] at hne
        exact hne rfl
  · rintro ⟨value, hvalue, hname, hne⟩
    rw [hvalue, Option.getD_some, hname, if_neg, String.ofList_toList]
    intro hempty
    exact hne (String.toList_eq_nil_iff.1 (List.isEmpty_iff.1 hempty))

theorem map_placedNames (word : String) (root : Node) :
    (placedNames word root).map (·.2) = declaredNames word root := by
  rw [declaredNames, ← Node.map_placed, placedNames, List.map_filterMap, List.filter_map, List.filterMap_map,
    List.filterMap_filter]
  refine List.filterMap_congr ?_
  rintro ⟨place, node⟩ -
  dsimp only [Function.comp_apply]
  split
  · rw [Option.map_map]
    exact Option.map_id' ..
  · rfl

theorem mem_placedNames {word : String} {root : Node} {place : List Nat} {name : String} :
    (place, name) ∈ placedNames word root ↔ NamesAt root word place name := by
  have hmem : (place, name) ∈ placedNames word root ↔
      ∃ node, (place, node) ∈ root.placed ∧ node.isNamed word = true ∧ declaredName? node = some name := by
    simp only [placedNames, List.mem_filterMap, Prod.exists, Option.ite_none_right_eq_some, Option.map_eq_some_iff,
      Prod.mk.injEq]
    constructor
    · rintro ⟨_, node, hnode, hnamed, other, hname, rfl, rfl⟩
      exact ⟨node, hnode, hnamed, hname⟩
    · rintro ⟨node, hnode, hnamed, hname⟩
      exact ⟨place, node, hnode, hnamed, name, hname, rfl, rfl⟩
  rw [hmem]
  constructor
  · rintro ⟨node, hnode, hnamed, hname⟩
    obtain ⟨hat, helement⟩ := (Node.mem_placed root).1 hnode
    cases node with
    | text cs => contradiction
    | element tag attributes content =>
      obtain ⟨value, hvalue⟩ := declaredName?_eq_some_iff.1 hname
      exact ⟨tag, attributes, content, value, hat, eq_of_beq hnamed, hvalue⟩
  · rintro ⟨tag, attributes, content, value, hat, hnamed, hvalue⟩
    exact ⟨.element tag attributes content, (Node.mem_placed root).2 ⟨hat, rfl⟩, beq_iff_eq.2 hnamed,
      declaredName?_eq_some_iff.2 ⟨value, hvalue⟩⟩

theorem pairwise_placedNames (word : String) (root : Node) :
    (placedNames word root).Pairwise fun a b => a.1 < b.1 := by
  rw [placedNames, List.pairwise_filterMap]
  refine (Node.pairwise_placed root).imp ?_
  rintro ⟨place, node⟩ ⟨place', node'⟩ h a ha b hb
  simp only [Option.ite_none_right_eq_some, Option.map_eq_some_iff] at ha hb
  obtain ⟨-, name, -, rfl⟩ := ha
  obtain ⟨-, name', -, rfl⟩ := hb
  exact h

/-! ## New names -/

theorem mem_newNames {seen names : List String} {name : String} :
    name ∈ newNames seen names ↔ name ∈ names ∧ name ∉ seen := by
  induction names generalizing seen with
  | nil => simp [newNames]
  | cons first rest ih =>
    rw [newNames]
    split
    case isTrue hseen =>
      rw [ih, List.mem_cons]
      constructor
      · rintro ⟨hmem, hnew⟩
        exact ⟨.inr hmem, hnew⟩
      · rintro ⟨rfl | hmem, hnew⟩
        · exact absurd hseen hnew
        · exact ⟨hmem, hnew⟩
    case isFalse hseen =>
      rw [List.mem_cons, ih, List.mem_cons, List.mem_cons, not_or]
      constructor
      · rintro (rfl | ⟨hmem, -, hnew⟩)
        · exact ⟨.inl rfl, hseen⟩
        · exact ⟨.inr hmem, hnew⟩
      · rintro ⟨hmem, hnew⟩
        by_cases hfirst : name = first
        · exact .inl hfirst
        · exact .inr ⟨hmem.resolve_left hfirst, hfirst, hnew⟩

theorem nodup_newNames (seen names : List String) : (newNames seen names).Nodup := by
  induction names generalizing seen with
  | nil => exact List.nodup_nil
  | cons name rest ih =>
    rw [newNames]
    split
    · exact ih seen
    · refine List.nodup_cons.2 ⟨?_, ih (name :: seen)⟩
      intro h
      exact (mem_newNames.1 h).2 List.mem_cons_self

/-- The new names with their places. -/
def newPlacedNames (seen : List String) : List (List Nat × String) → List (List Nat × String)
  | [] => []
  | (place, name) :: rest =>
    if name ∈ seen then newPlacedNames seen rest else (place, name) :: newPlacedNames (name :: seen) rest

theorem map_newPlacedNames (seen : List String) (names : List (List Nat × String)) :
    (newPlacedNames seen names).map (·.2) = newNames seen (names.map (·.2)) := by
  induction names generalizing seen with
  | nil => rfl
  | cons first rest ih =>
    rw [newPlacedNames, List.map_cons, newNames]
    split
    · exact ih seen
    · rw [List.map_cons, ih]

theorem newPlacedNames_sublist (seen : List String) (names : List (List Nat × String)) :
    (newPlacedNames seen names).Sublist names := by
  induction names generalizing seen with
  | nil => exact List.Sublist.slnil
  | cons first rest ih =>
    rw [newPlacedNames]
    split
    · exact (ih seen).cons _
    · exact (ih (first.2 :: seen)).cons_cons _

/-- A name is new where it comes first, if it was not seen before. -/
theorem mem_newPlacedNames {seen : List String} {names : List (List Nat × String)}
    (h : names.Pairwise fun a b => a.1 < b.1) {place : List Nat} {name : String} :
    (place, name) ∈ newPlacedNames seen names ↔
      (place, name) ∈ names ∧ name ∉ seen ∧ ∀ earlier < place, (earlier, name) ∉ names := by
  induction names generalizing seen with
  | nil => simp [newPlacedNames]
  | cons first rest ih =>
    obtain ⟨start, word⟩ := first
    obtain ⟨hstart, hrest⟩ := List.pairwise_cons.1 h
    -- The first place is before all others, so its name is not new anywhere else.
    have hlater : ∀ earlier, (earlier, name) ∈ (start, word) :: rest ↔
        (earlier = start ∧ name = word) ∨ (earlier, name) ∈ rest := by
      intro earlier
      rw [List.mem_cons, Prod.mk.injEq]
    rw [newPlacedNames]
    simp only [hlater, not_or, not_and]
    split
    case isTrue hseen =>
      rw [ih hrest]
      constructor
      · rintro ⟨hmem, hnew, hfirst⟩
        refine ⟨.inr hmem, hnew, fun earlier hlt => ⟨?_, hfirst earlier hlt⟩⟩
        rintro - rfl
        exact hnew hseen
      · rintro ⟨⟨-, rfl⟩ | hmem, hnew, hfirst⟩
        · exact absurd hseen hnew
        · exact ⟨hmem, hnew, fun earlier hlt => (hfirst earlier hlt).2⟩
    case isFalse hseen =>
      rw [List.mem_cons, Prod.mk.injEq, ih hrest, List.mem_cons, not_or]
      constructor
      · rintro (⟨rfl, rfl⟩ | ⟨hmem, ⟨hne, hnew⟩, hfirst⟩)
        · refine ⟨.inl ⟨rfl, rfl⟩, hseen, fun earlier hlt => ⟨?_, ?_⟩⟩
          · rintro rfl -
            exact lt_irrefl _ hlt
          · intro hmem
            exact lt_asymm hlt (hstart _ hmem)
        · exact ⟨.inr hmem, hnew, fun earlier hlt => ⟨fun _ heq => hne heq, hfirst earlier hlt⟩⟩
      · rintro ⟨hmem, hnew, hfirst⟩
        rcases hmem with hmem | hmem
        · exact .inl hmem
        · refine .inr ⟨hmem, ⟨?_, hnew⟩, fun earlier hlt => (hfirst earlier hlt).2⟩
          rintro rfl
          exact (hfirst start (hstart _ hmem)).1 rfl rfl

/-! ## Declarations -/

theorem names_of_read {text : String} {root : Node} (h : Xml.read? text = some root) :
    names (some text) = declarations root := by
  rw [names, Option.bind_some, h]
  rfl

/-- **What a metadata document declares** is first all entity sets, then entity types, then all function imports, each of
them in document order, by the names that are not blank, without the white space around them. The entity types are those
that come first with their names and whose names no entity set has. So they have distinct names, which are not those of
entity sets, and the name of each entity type is that of a listed set or type. -/
theorem declarations_of_document (root : Node) :
    (∀ text, Xml.read? text = some root → names (some text) = declarations root) ∧
    ∃ sets types functions : List (List Nat × String),
      declarations root = sets.map (fun d => (d.2, .entitySet)) ++ types.map (fun d => (d.2, .entityType)) ++
        functions.map (fun d => (d.2, .functionImport)) ∧
      (∀ listed ∈ [sets, types, functions], listed.Pairwise fun a b => a.1 < b.1) ∧
      (∀ place name, (place, name) ∈ sets ↔ NamesAt root "EntitySet" place name) ∧
      (∀ place name, (place, name) ∈ types ↔ NamesAt root "EntityType" place name ∧
        (∀ other, ¬NamesAt root "EntitySet" other name) ∧
        ∀ earlier < place, ¬NamesAt root "EntityType" earlier name) ∧
      (∀ place name, (place, name) ∈ functions ↔ NamesAt root "FunctionImport" place name) ∧
      (types.map (·.2)).Nodup ∧ (types.map (·.2)).Disjoint (sets.map (·.2)) ∧
      ∀ place name, NamesAt root "EntityType" place name → name ∈ sets.map (·.2) ++ types.map (·.2) := by
  refine ⟨fun _ => names_of_read, placedNames "EntitySet" root,
    newPlacedNames (declaredNames "EntitySet" root) (placedNames "EntityType" root), placedNames "FunctionImport" root,
    ?_, ?_, fun _ _ => mem_placedNames, ?_, fun _ _ => mem_placedNames, ?_⟩
  · have hlisted : ∀ (kind : ResourceKind) (placed : List (List Nat × String)),
        placed.map (fun d => (d.2, kind)) = (placed.map (·.2)).map (·, kind) := by
      intro kind placed
      rw [List.map_map]
      rfl
    rw [hlisted, hlisted, hlisted, map_newPlacedNames, map_placedNames, map_placedNames, map_placedNames]
    rfl
  · intro listed hlisted
    simp only [List.mem_cons, List.not_mem_nil, or_false] at hlisted
    rcases hlisted with rfl | rfl | rfl
    · exact pairwise_placedNames _ root
    · exact (pairwise_placedNames _ root).sublist (newPlacedNames_sublist _ _)
    · exact pairwise_placedNames _ root
  · have hset : ∀ name, name ∉ declaredNames "EntitySet" root ↔ ∀ other, ¬NamesAt root "EntitySet" other name := by
      intro name
      rw [← map_placedNames]
      simp only [List.mem_map, Prod.exists, exists_eq_right, not_exists, mem_placedNames]
    intro place name
    rw [mem_newPlacedNames (pairwise_placedNames _ root), hset]
    simp only [mem_placedNames]
  · rw [map_newPlacedNames, map_placedNames, map_placedNames]
    refine ⟨nodup_newNames _ _, fun name hname => (mem_newNames.1 hname).2, ?_⟩
    intro place name h
    have hname : name ∈ declaredNames "EntityType" root := by
      rw [← map_placedNames]
      exact List.mem_map_of_mem (f := (·.2)) (mem_placedNames.2 h)
    rw [List.mem_append, mem_newNames]
    by_cases hset : name ∈ declaredNames "EntitySet" root
    · exact .inl hset
    · exact .inr ⟨hname, hset⟩

end ODataBrowser.Metadata
