import Mathlib.Data.List.Lex
import ODataBrowser.Xml.Element

/-!
# Places in a document

A node of a document stands at a place: the numbers of the nodes on the way down to it, each of which counts within the
content of the one before. In the order of places an element comes before what is inside it, and that comes before its
later neighbours. This is the order in which the elements are listed (`Node.map_placed`, `Node.pairwise_placed`), and
none is left out (`Node.mem_placed`).
-/

namespace ODataBrowser.Xml.Node

/-- Whether the node is an element. -/
def isElement : Node → Bool
  | .text _ => false
  | .element .. => true

/-- The node at a place below a node. -/
def at? : Node → List Nat → Option Node
  | node, [] => some node
  | .text _, _ :: _ => none
  | .element _ _ content, i :: place => content[i]?.bind (at? · place)

mutual

/-- The element and all elements inside it, each with its place. -/
def placed : Node → List (List Nat × Node)
  | .text _ => []
  | .element name attributes content => ([], .element name attributes content) :: placedIn 0 content

/-- All elements in a list of nodes, the first of which has the given number, each with its place. -/
def placedIn (first : Nat) : List Node → List (List Nat × Node)
  | [] => []
  | node :: rest => node.placed.map (Prod.map (first :: ·) id) ++ placedIn (first + 1) rest

end

/-! ## The listed elements -/

mutual

theorem elementsBefore_eq (others : List Node) (node : Node) :
    node.elementsBefore others = node.placed.map (·.2) ++ others := by
  cases node with
  | text cs => rfl
  | element name attributes content =>
    rw [elementsBefore, placed, List.map_cons, List.cons_append, elementsOfBefore_eq others 0 content]

theorem elementsOfBefore_eq (others : List Node) (first : Nat) (nodes : List Node) :
    elementsOfBefore others nodes = (placedIn first nodes).map (·.2) ++ others := by
  cases nodes with
  | nil => rfl
  | cons node rest =>
    rw [elementsOfBefore, elementsBefore_eq _ node, elementsOfBefore_eq others (first + 1) rest, placedIn,
      List.map_append, List.map_map, List.append_assoc]
    rfl

end

/-- The elements are listed in the order of their places. -/
theorem map_placed (node : Node) : node.placed.map (·.2) = node.elements := by
  rw [elements, elementsBefore_eq, List.append_nil]

mutual

/-- Just the elements have places. -/
theorem mem_placed {place : List Nat} {n : Node} (node : Node) :
    (place, n) ∈ node.placed ↔ node.at? place = some n ∧ n.isElement = true := by
  cases node with
  | text cs =>
    refine iff_of_false List.not_mem_nil ?_
    rintro ⟨hat, helement⟩
    cases place with
    | nil => simp [← Option.some.inj hat, isElement] at helement
    | cons i place => contradiction
  | element name attributes content =>
    rw [placed, List.mem_cons, mem_placedIn 0 content]
    cases place with
    | nil =>
      constructor
      · rintro (h | ⟨j, child, inside, h, -⟩)
        · rw [(Prod.mk.inj h).2]
          exact ⟨rfl, rfl⟩
        · contradiction
      · rintro ⟨hat, -⟩
        exact .inl (congrArg _ (Option.some.inj hat).symm)
    | cons i place =>
      rw [at?, Option.bind_eq_some_iff]
      constructor
      · rintro (h | ⟨j, child, inside, h, hchild, hat, helement⟩)
        · exact absurd (Prod.mk.inj h).1 (List.cons_ne_nil i place)
        · obtain ⟨rfl, rfl⟩ := List.cons.inj h
          rw [Nat.zero_add]
          exact ⟨⟨child, hchild, hat⟩, helement⟩
      · rintro ⟨⟨child, hchild, hat⟩, helement⟩
        exact .inr ⟨i, child, place, by rw [Nat.zero_add], hchild, hat, helement⟩

theorem mem_placedIn {place : List Nat} {n : Node} (first : Nat) (nodes : List Node) :
    (place, n) ∈ placedIn first nodes ↔ ∃ j child inside, place = (first + j) :: inside ∧ nodes[j]? = some child ∧
      child.at? inside = some n ∧ n.isElement = true := by
  cases nodes with
  | nil =>
    refine iff_of_false List.not_mem_nil ?_
    rintro ⟨j, child, inside, -, h, -⟩
    simp at h
  | cons node rest =>
    rw [placedIn, List.mem_append, mem_placedIn (first + 1) rest]
    have hhead : (place, n) ∈ node.placed.map (Prod.map (first :: ·) id) ↔
        ∃ inside, place = first :: inside ∧ node.at? inside = some n ∧ n.isElement = true := by
      simp only [List.mem_map, Prod.exists, Prod.map_apply, id, Prod.mk.injEq, mem_placed node]
      constructor
      · rintro ⟨inside, m, hm, rfl, rfl⟩
        exact ⟨inside, rfl, hm⟩
      · rintro ⟨inside, rfl, hn⟩
        exact ⟨inside, n, hn, rfl, rfl⟩
    rw [hhead]
    constructor
    · rintro (⟨inside, rfl, hn⟩ | ⟨j, child, inside, rfl, hchild, hn⟩)
      · exact ⟨0, node, inside, rfl, rfl, hn⟩
      · exact ⟨j + 1, child, inside, by rw [Nat.add_assoc, Nat.add_comm 1 j], hchild, hn⟩
    · rintro ⟨j, child, inside, rfl, hchild, hn⟩
      cases j with
      | zero =>
        obtain rfl : node = child := Option.some.inj hchild
        exact .inl ⟨inside, rfl, hn⟩
      | succ j => exact .inr ⟨j, child, inside, by rw [Nat.add_assoc, Nat.add_comm 1 j], hchild, hn⟩

end

mutual

/-- The places of the elements ascend. -/
theorem pairwise_placed (node : Node) : node.placed.Pairwise fun a b => a.1 < b.1 := by
  cases node with
  | text cs => exact List.Pairwise.nil
  | element name attributes content =>
    rw [placed, List.pairwise_cons]
    refine ⟨?_, pairwise_placedIn 0 content⟩
    rintro ⟨place, n⟩ h
    obtain ⟨j, child, inside, rfl, -⟩ := (mem_placedIn 0 content).1 h
    exact List.nil_lt_cons _ _

theorem pairwise_placedIn (first : Nat) (nodes : List Node) :
    (placedIn first nodes).Pairwise fun a b => a.1 < b.1 := by
  cases nodes with
  | nil => exact List.Pairwise.nil
  | cons node rest =>
    rw [placedIn, List.pairwise_append, List.pairwise_map]
    refine ⟨?_, pairwise_placedIn (first + 1) rest, ?_⟩
    · refine (pairwise_placed node).imp ?_
      intro a b h
      exact List.cons_lt_cons_iff.2 (.inr ⟨rfl, h⟩)
    · rintro a ha ⟨place, n⟩ hb
      obtain ⟨a, -, rfl⟩ := List.mem_map.1 ha
      obtain ⟨j, child, inside, rfl, -⟩ := (mem_placedIn (first + 1) rest).1 hb
      have hlt : first < first + 1 + j := by omega
      exact List.cons_lt_cons_iff.2 (.inl hlt)

end

end ODataBrowser.Xml.Node
