import ODataBrowser.Proofs.Text.Lowercase
import ODataBrowser.Proofs.Text.Sigma
import ODataBrowser.Resource.Search

/-!
# What a search finds

A search keeps the order of resources and finds all of them for a blank term. It compares the term and the texts of a
resource in lower case, each on its own. So it finds a resource whose name, kind or location holds the term as it is
wherever no cased character comes next to the term (`mem_searchResources_of_apart`), but not in every other place: the
lower case of a capital sigma at an end of the term can be another within a longer word. A search finds every resource
that holds the term just if the term settles its sigmas (`searchResources_spec`).
-/

namespace ODataBrowser

open Text

/-! ## Resources that hold a word -/

namespace Resource

/-- The texts in which a resource is searched for. -/
def texts (r : Resource) : List JsonText :=
  [r.name, .string r.kind.name, r.url]

/-- Whether a text of the resource holds the word as it is. -/
def Holds (r : Resource) (word : List CodePoint) : Prop :=
  ∃ t ∈ r.texts, word <:+: t.points

/-- Whether a text of the resource holds the word where no cased character comes next to it. -/
def HoldsApart (r : Resource) (word : List CodePoint) : Prop :=
  ∃ t ∈ r.texts, ∃ front back, t.points = front ++ word ++ back ∧ facesCased front.reverse = false ∧
    facesCased back = false

theorem contains_iff {r : Resource} {word : JsonText} :
    r.contains (word.mapRuns lowercase) = true ↔
      ∃ t ∈ r.texts, lowerWithin [] word.points [] <:+: lowerWithin [] t.points [] := by
  have hword (t : JsonText) : containsWord (word.mapRuns lowercase) t = true ↔
      lowerWithin [] word.points [] <:+: lowerWithin [] t.points [] := by
    rw [containsWord, occurs_iff, points_mapRuns_lowercase, points_mapRuns_lowercase]
  simp only [contains, Bool.or_eq_true, hword, texts, List.mem_cons, List.not_mem_nil, or_false, exists_eq_or_imp,
    exists_eq_left, or_assoc]

end Resource

/-! ## Searching -/

variable {resources : List Resource} {term : JsonText} {r : Resource}

theorem searchResources_sublist (resources : List Resource) (term : JsonText) :
    (searchResources resources term).Sublist resources := by
  unfold searchResources
  dsimp only
  split
  · exact List.Sublist.refl _
  · exact List.filter_sublist

theorem isEmpty_word_iff : (term.strip.mapRuns lowercase).isEmpty = true ↔ term.strip.points = [] := by
  rw [JsonText.isEmpty_iff, points_mapRuns_lowercase, lowerWithin_eq_nil_iff]

theorem searchResources_of_blank (h : ∀ p ∈ term.points, p.isCharOf isBlank = true) (resources : List Resource) :
    searchResources resources term = resources :=
  if_pos (isEmpty_word_iff.2 (JsonText.points_strip_eq_nil_iff.2 h))

/-- Where a term may be missing, a missing one finds all resources. -/
theorem searchByValue_null (resources : List Resource) : searchByValue resources .null = .ok resources :=
  congrArg Except.ok (searchResources_of_blank (List.forall_mem_nil _) resources)

theorem searchByValue_textual (resources : List Resource) (term : JsonText) :
    searchByValue resources (.textual term) = .ok (searchResources resources term) := by
  cases hempty : term.isEmpty with
  | false =>
    have hterm : (Value.textual term).orElse (.text "") = .textual term :=
      if_pos (congrArg Bool.not hempty)
    rw [searchByValue, hterm]
  | true =>
    have hterm : (Value.textual term).orElse (.text "") = .text "" :=
      if_neg (by simpa [Value.isPresent, Scalar.isPresent] using hempty)
    have hpoints : term.points = [] := JsonText.isEmpty_iff.1 hempty
    rw [searchByValue, hterm, searchResources_of_blank (by simp [hpoints])]
    exact congrArg Except.ok (searchResources_of_blank (List.forall_mem_nil _) resources)

/-- A search finds the resources with a text that has the trimmed term in it when both are in lower case. -/
theorem mem_searchResources_iff :
    r ∈ searchResources resources term ↔ r ∈ resources ∧
      ∃ t ∈ r.texts, lowerWithin [] term.strip.points [] <:+: lowerWithin [] t.points [] := by
  unfold searchResources
  dsimp only
  split
  case isTrue hempty =>
    rw [isEmpty_word_iff] at hempty
    refine (and_iff_left ⟨r.name, List.mem_cons_self, ?_⟩).symm
    rw [hempty]
    exact ⟨[], _, rfl⟩
  case isFalse => rw [List.mem_filter, Resource.contains_iff]

theorem mem_searchResources_of_apart (hr : r ∈ resources) (h : r.HoldsApart term.strip.points) :
    r ∈ searchResources resources term := by
  obtain ⟨t, ht, front, back, hpoints, hfront, hback⟩ := h
  refine mem_searchResources_iff.2 ⟨hr, t, ht, ?_⟩
  rw [hpoints]
  exact lowerWithin_infix_of_apart hfront hback

theorem mem_searchResources_of_isSettled (hterm : IsSettled term.strip.points) (hr : r ∈ resources)
    (h : r.Holds term.strip.points) : r ∈ searchResources resources term := by
  obtain ⟨t, ht, hword⟩ := h
  exact mem_searchResources_iff.2 ⟨hr, t, ht, lowerWithin_infix_of_isSettled hterm hword⟩

/-- A resource that is named by a text and has no more to say. -/
def Resource.named (name : JsonText) : Resource :=
  ⟨name, .resource, .string ""⟩

/-- A word with a capital sigma occurs neither in the name of the plain kind nor in an empty location. -/
theorem not_infix_of_capitalSigma {word : List CodePoint} (h : capitalSigma ∈ word) {t : JsonText}
    (ht : t ∈ [.string ResourceKind.resource.name, .string ""]) :
    ¬lowerWithin [] word [] <:+: lowerWithin [] t.points [] := by
  intro hmatch
  obtain ⟨form, hform, hmem⟩ := exists_mem_lowerWithin h [] []
  have hfound := hmatch.subset hmem
  rw [List.mem_pair] at ht
  rcases hform with rfl | rfl
  · rcases ht with rfl | rfl <;> exact absurd hfound (by decide)
  · rcases ht with rfl | rfl <;> exact absurd hfound (by decide)

/-- A term that is not settled misses some resource that holds it. -/
theorem exists_missed_of_not_isSettled (h : ¬IsSettled term.strip.points) :
    ∃ r : Resource, r.Holds term.strip.points ∧ r ∉ searchResources [r] term := by
  obtain ⟨points, hword, hlower⟩ := exists_infix_of_not_isSettled h
  have hsigma : capitalSigma ∈ term.strip.points := by
    by_contra hsigma
    exact h (isSettled_of_not_mem hsigma)
  have hpoints := JsonText.points_ofPoints points
  refine ⟨.named (.ofPoints points), ⟨.ofPoints points, List.mem_cons_self, hpoints.symm ▸ hword⟩, ?_⟩
  intro hfound
  obtain ⟨-, t, ht, hmatch⟩ := mem_searchResources_iff.1 hfound
  rcases List.mem_cons.1 ht with rfl | ht
  · rw [Resource.named, hpoints] at hmatch
    exact hlower hmatch
  · exact not_infix_of_capitalSigma hsigma ht hmatch

/-- **What a search finds.** A search leaves resources out and keeps the order of the others, and a blank term finds all
of them. A resource is found if its name, kind or location holds the trimmed term where no cased character comes next to
it. Wherever it stands, the trimmed term is found just if it settles the forms of its own sigmas. A loosely typed term is
searched for in the same way, and one that is missing finds all resources. -/
theorem searchResources_spec (term : JsonText) :
    (∀ resources, searchByValue resources (.textual term) = .ok (searchResources resources term) ∧
      searchByValue resources .null = .ok resources) ∧
    (∀ resources, (searchResources resources term).Sublist resources) ∧
    ((∀ p ∈ term.points, p.isCharOf isBlank = true) → ∀ resources, searchResources resources term = resources) ∧
    (∀ resources, ∀ r ∈ resources, r.HoldsApart term.strip.points → r ∈ searchResources resources term) ∧
    ((∀ resources, ∀ r ∈ resources, r.Holds term.strip.points → r ∈ searchResources resources term) ↔
      IsSettled term.strip.points) := by
  refine ⟨fun resources => ⟨searchByValue_textual resources term, searchByValue_null resources⟩,
    fun resources => searchResources_sublist resources term, fun h => searchResources_of_blank h, ?_, ?_⟩
  · exact fun _ _ => mem_searchResources_of_apart
  · constructor
    · intro hfound
      by_contra hterm
      obtain ⟨r, hr, hmissed⟩ := exists_missed_of_not_isSettled hterm
      exact hmissed (hfound [r] r (List.mem_singleton_self r) hr)
    · intro hterm _ _
      exact mem_searchResources_of_isSettled hterm

/-! ### Terms with a sigma -/

/-- A set with a name, below the root. -/
def setNamed (name : String) : Resource :=
  .below "https://host/svc" name.toList .entitySet ['S']

/-- A term that begins with a sigma is found within a word, one that ends in a sigma at the end of a word. -/
theorem searchResources_spec_of_two_terms :
    setNamed "ΑΣΑ" ∈ searchResources [setNamed "ΑΣΑ", setNamed "Α ΑΣ"] (.string " ΣΑ ") ∧
    setNamed "Α ΑΣ" ∈ searchResources [setNamed "ΑΣΑ", setNamed "Α ΑΣ"] (.string "ΑΣ") ∧
    searchResources [setNamed "ΑΣΑ", setNamed "Α ΑΣ"] (.string "\u00A0 ") = [setNamed "ΑΣΑ", setNamed "Α ΑΣ"] := by
  refine ⟨?_, ?_, ?_⟩
  · obtain ⟨-, -, -, -, hsettled⟩ := searchResources_spec (.string " ΣΑ ")
    refine hsettled.2 (by decide) _ _ List.mem_cons_self ⟨.string "ΑΣΑ", ?_⟩
    exact ⟨List.mem_cons_self, ⟨[.char 'Α'], [], rfl⟩⟩
  · obtain ⟨-, -, -, hapart, -⟩ := searchResources_spec (.string "ΑΣ")
    refine hapart _ _ (List.mem_cons_of_mem _ List.mem_cons_self) ⟨.string "Α ΑΣ", List.mem_cons_self, ?_⟩
    exact ⟨[.char 'Α', .char ' '], [], rfl, by decide, rfl⟩
  · obtain ⟨-, -, hblank, -, -⟩ := searchResources_spec (.string "\u00A0 ")
    exact hblank (by decide) _

/-- **A name that holds the term is missed** where the term ends in a sigma and the name goes on. -/
theorem search_misses_longer_word :
    (setNamed "ΑΣΑ").Holds (JsonText.string "ΑΣ").strip.points ∧
    searchResources [setNamed "ΑΣΑ"] (.string "ΑΣ") = [] :=
  ⟨⟨.string "ΑΣΑ", List.mem_cons_self, ⟨[], [.char 'Α'], rfl⟩⟩, by decide +kernel⟩

end ODataBrowser
