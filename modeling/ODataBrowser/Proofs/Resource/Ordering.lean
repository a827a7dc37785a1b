import Mathlib.Data.List.Lex
import Mathlib.Data.List.Nodup
import Mathlib.Data.Prod.Lex
import ODataBrowser.Proofs.Json.Text
import ODataBrowser.Proofs.Service.Location
import ODataBrowser.Service.Discovery

/-!
# The order of resources

Sorting by name puts the keys of resources (`nameKey`) in order: their base forms, and behind these the names
themselves. Two names have the same key only if they are the same (`nameKey_injective`), whatever computes the base
forms. So resources with distinct names have one order, and it does not matter in which order a service lists them
(`sortByName_of_resources`).
-/

namespace ODataBrowser

open Text

/-! ## Code points -/

theorem CodePoint.code_injective : Function.Injective CodePoint.code := by
  -- No character has the number of a surrogate.
  have hdisjoint : ∀ (c : Char) (s : Surrogate), c.toNat ≠ 0xD800 + s.val := by
    intro c s heq
    have hvalid : c.toNat < 0xD800 ∨ 0xDFFF < c.toNat ∧ c.toNat < 0x110000 := c.valid
    have hs := s.isLt
    omega
  intro a b h
  cases a with
  | char c =>
    cases b with
    | char d => rw [Char.toNat_inj.1 h]
    | lone s => exact absurd h (hdisjoint c s)
  | lone s =>
    cases b with
    | char d => exact absurd h.symm (hdisjoint d s)
    | lone s' => rw [Fin.ext (Nat.add_left_cancel h)]

theorem JsonText.codes_injective : Function.Injective JsonText.codes := by
  intro t t' h
  have hpoints : t.points = t'.points := CodePoint.code_injective.list_map h
  rw [← ofPoints_points t, hpoints, ofPoints_points]

/-! ## Keys -/

/-- The key of a name: its base form, and behind it the name itself, both by code points. -/
def nameKey (base : JsonText → JsonText) (name : JsonText) : List Nat ×ₗ List Nat :=
  toLex ((base name).codes, name.codes)

variable {base : JsonText → JsonText}

theorem nameKey_injective : Function.Injective (nameKey base) := by
  intro a b h
  have hpair : ((base a).codes, a.codes) = ((base b).codes, b.codes) := toLex.injective h
  exact JsonText.codes_injective (Prod.mk.inj hpair).2

/-- A name comes before another or is the same just if its key does or is. -/
theorem nameLE_iff {a b : JsonText} : nameLE base a b = true ↔ nameKey base a ≤ nameKey base b := by
  have hbase : base a = base b ↔ (base a).codes = (base b).codes := JsonText.codes_injective.eq_iff.symm
  rw [nameKey, nameKey, Prod.Lex.toLex_le_toLex, nameLE, Bool.or_eq_true, Bool.and_eq_true, beq_iff_eq, hbase,
    decide_eq_true_iff, Bool.not_eq_true', decide_eq_false_iff_not, not_lt]

theorem nameLE_trans (a b c : Resource) (hab : nameLE base a.name b.name = true)
    (hbc : nameLE base b.name c.name = true) : nameLE base a.name c.name = true := by
  rw [nameLE_iff] at hab hbc ⊢
  exact hab.trans hbc

theorem nameLE_total (a b : Resource) : (nameLE base a.name b.name || nameLE base b.name a.name) = true := by
  rw [Bool.or_eq_true, nameLE_iff, nameLE_iff]
  exact le_total _ _

/-! ## Sorting by name -/

variable {resources : List Resource}

theorem sortByName_perm (base : JsonText → JsonText) (resources : List Resource) :
    (sortByName base resources).Perm resources :=
  List.mergeSort_perm _ _

theorem pairwise_sortByName (base : JsonText → JsonText) (resources : List Resource) :
    (sortByName base resources).Pairwise fun a b => nameKey base a.name ≤ nameKey base b.name := by
  refine (List.pairwise_mergeSort nameLE_trans nameLE_total resources).imp ?_
  intro a b h
  exact nameLE_iff.1 h

/-- The resources of one name stay as they stood. -/
theorem filter_sortByName (base : JsonText → JsonText) (resources : List Resource) (name : JsonText) :
    (sortByName base resources).filter (·.name = name) = resources.filter (·.name = name) := by
  have hordered : (resources.filter (·.name = name)).Pairwise fun a b => nameLE base a.name b.name = true := by
    refine List.pairwise_of_forall_mem_list ?_
    intro a ha b hb
    have hname : a.name = b.name :=
      (of_decide_eq_true (List.mem_filter.1 ha).2).trans (of_decide_eq_true (List.mem_filter.1 hb).2).symm
    rw [nameLE_iff, hname]
  have hkept : (resources.filter (·.name = name)).Sublist (sortByName base resources) :=
    List.sublist_mergeSort nameLE_trans nameLE_total hordered List.filter_sublist
  have hsublist := hkept.filter (·.name = name)
  rw [List.filter_filter] at hsublist
  simp only [Bool.and_self] at hsublist
  exact (hsublist.eq_of_length ((sortByName_perm base resources).symm.filter _).length_eq).symm

/-- Resources with distinct names have one order. -/
theorem sortByName_eq_of_perm {other : List Resource} (h : resources.Perm other)
    (hnames : (resources.map (·.name)).Nodup) : sortByName base resources = sortByName base other := by
  have hperm := (sortByName_perm base resources).trans (h.trans (sortByName_perm base other).symm)
  refine hperm.eq_of_pairwise ?_ (pairwise_sortByName base resources) (pairwise_sortByName base other)
  intro a b ha hb hab hba
  have hname : a.name = b.name := nameKey_injective (le_antisymm hab hba)
  have ha : a ∈ resources := (sortByName_perm base resources).subset ha
  have hb : b ∈ resources := h.symm.subset ((sortByName_perm base other).subset hb)
  exact List.inj_on_of_nodup_map hnames ha hb hname

/-! ## Discovery -/

theorem ServiceDocument.resources_eq_of_perm {text text' root : String} {listing listing' : List Resource}
    (hlisted : listed text root = .ok listing) (hlisted' : listed text' root = .ok listing')
    (h : listing.Perm listing') (hnames : (listing.map (·.name)).Nodup) :
    ServiceDocument.resources (some text) root = ServiceDocument.resources (some text') root := by
  change (listed text root).map sortResources = (listed text' root).map sortResources
  rw [hlisted, hlisted']
  exact congrArg Except.ok (sortByName_eq_of_perm h hnames)

theorem Metadata.resources_eq_of_perm {document document' : Option String} (root : String)
    (h : (names document).Perm (names document')) (hnames : ((names document).map (·.1)).Nodup) :
    Metadata.resources document root = Metadata.resources document' root := by
  refine sortByName_eq_of_perm (h.map _) ?_
  have hstring : Function.Injective fun name : String => JsonText.ofChars name.toList := by
    intro a b hab
    exact String.toList_inj.1 (JsonText.ofChars_inj.1 hab)
  have hmap := hnames.map hstring
  rw [List.map_map] at hmap ⊢
  exact hmap

/-- **The order of resources.** However the base forms of names are computed, sorting by name keeps the resources, puts
their keys in order, leaves the resources of each name as they stood, and comes to the same list from every arrangement
of resources with distinct names. So what is discovered does not depend on the order in which the documents list it. -/
theorem sortByName_of_resources (base : JsonText → JsonText) (resources : List Resource) :
    (sortByName base resources).Perm resources ∧
    ((sortByName base resources).Pairwise fun a b => nameKey base a.name ≤ nameKey base b.name) ∧
    (∀ name, (sortByName base resources).filter (·.name = name) = resources.filter (·.name = name)) ∧
    (∀ other, resources.Perm other → (resources.map (·.name)).Nodup →
      sortByName base resources = sortByName base other) ∧
    ∀ (text text' root : String) (metadata metadata' : Option String) (cause : Option RequestFailure)
      (listing : List Resource), ServiceDocument.listed text root = .ok resources →
      ServiceDocument.listed text' root = .ok listing → resources.Perm listing → (resources.map (·.name)).Nodup →
      (Metadata.names metadata).Perm (Metadata.names metadata') → ((Metadata.names metadata).map (·.1)).Nodup →
      discover (some text) metadata root cause = discover (some text') metadata' root cause := by
  refine ⟨sortByName_perm base resources, pairwise_sortByName base resources, filter_sortByName base resources, ?_, ?_⟩
  · intro other h hnames
    exact sortByName_eq_of_perm h hnames
  · intro text text' root metadata metadata' cause listing hlisted hlisted' h hnames hm hmnames
    unfold discover
    rw [ServiceDocument.resources_eq_of_perm hlisted hlisted' h hnames, Metadata.resources_eq_of_perm root hm hmnames]

end ODataBrowser
