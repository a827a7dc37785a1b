import ODataBrowser.Value.Conversion

/-!
# Values that can be written out

A value can be written out just if all integers in it are short enough and no more lists and maps stand around each
other than there is room for (`Value.checkText_eq_ok_iff`). Then every part of it can be written out (`Value.IsIn`).
-/

namespace ODataBrowser

/-- The integers in a scalar. -/
def Scalar.integers : Scalar → List Int
  | .int n => [n]
  | _ => []

namespace Value

mutual

/-- How many lists and maps stand around each other in a value. -/
def depth : Value → Nat
  | .scalar _ => 0
  | .list items => depths items + 1
  | .map entries => entryDepths entries + 1

/-- The greatest depth of the items of a list. -/
def depths : List Value → Nat
  | [] => 0
  | v :: rest => max v.depth (depths rest)

/-- The greatest depth of the entries of a map. -/
def entryDepths : List (Scalar × Value) → Nat
  | [] => 0
  | (_, v) :: rest => max v.depth (entryDepths rest)

end

mutual

/-- The integers in a value, with those among the keys of its maps. -/
def integers : Value → List Int
  | .scalar s => s.integers
  | .list items => integersOf items
  | .map entries => entryIntegers entries

/-- The integers in the items of a list. -/
def integersOf : List Value → List Int
  | [] => []
  | v :: rest => v.integers ++ integersOf rest

/-- The integers in the entries of a map. -/
def entryIntegers : List (Scalar × Value) → List Int
  | [] => []
  | (key, v) :: rest => key.integers ++ v.integers ++ entryIntegers rest

end

end Value

/-- Whether all of some integers are short enough to be written out. -/
def AreShort (integers : List Int) : Prop :=
  ∀ n ∈ integers, n.natAbs < tenPow Numeral.maxDigits

theorem Scalar.checkText_eq_ok_iff (s : Scalar) : s.checkText = .ok () ↔ AreShort s.integers := by
  cases s with
  | int n =>
    unfold checkText AreShort integers
    by_cases h : tenPow Numeral.maxDigits ≤ n.natAbs
    · simp [h]
    · simp [h, Nat.lt_of_not_le h]
  | _ => exact iff_of_true rfl nofun

theorem Scalar.eq_unreadable_of_checkText {s : Scalar} {fault : Fault} (h : s.checkText = .error fault) :
    fault = .unreadable := by
  unfold checkText at h
  split at h
  · split at h
    · exact (Except.error.inj h).symm
    · contradiction
  · contradiction

theorem areShort_append {integers more : List Int} :
    AreShort (integers ++ more) ↔ AreShort integers ∧ AreShort more :=
  List.forall_mem_append

/-- Two checks pass just if both do. -/
theorem Fault.bind_eq_ok_iff {x y : Except Fault Unit} : (x >>= fun _ => y) = .ok () ↔ x = .ok () ∧ y = .ok () := by
  cases x with
  | error fault => exact iff_of_false nofun fun h => nomatch h.1
  | ok _ => exact (and_iff_right rfl).symm

namespace Value

@[simp] theorem checkText_scalar (room : Nat) (s : Scalar) : (Value.scalar s).checkText room = s.checkText := by
  cases room <;> rfl

mutual

/-- **A value can be written out** just if its integers are short and it is not nested too deeply. -/
theorem checkText_eq_ok_iff (room : Nat) (v : Value) :
    v.checkText room = .ok () ↔ AreShort v.integers ∧ v.depth ≤ room := by
  cases v with
  | scalar s =>
    rw [checkText_scalar, integers, depth, s.checkText_eq_ok_iff]
    exact (and_iff_left room.zero_le).symm
  | list items =>
    cases room with
    | zero => exact iff_of_false nofun fun h => absurd h.2 (by simp [depth])
    | succ room =>
      rw [checkText, checkTexts_eq_ok_iff, integers, depth, Nat.add_le_add_iff_right]
  | map entries =>
    cases room with
    | zero => exact iff_of_false nofun fun h => absurd h.2 (by simp [depth])
    | succ room =>
      rw [checkText, checkEntryTexts_eq_ok_iff, integers, depth, Nat.add_le_add_iff_right]

theorem checkTexts_eq_ok_iff (room : Nat) (items : List Value) :
    checkTexts room items = .ok () ↔ AreShort (integersOf items) ∧ depths items ≤ room := by
  cases items with
  | nil => exact iff_of_true rfl ⟨nofun, room.zero_le⟩
  | cons v rest =>
    rw [checkTexts, Fault.bind_eq_ok_iff, checkText_eq_ok_iff room v, checkTexts_eq_ok_iff room rest, integersOf, depths,
      areShort_append, Nat.max_le]
    exact and_and_and_comm

theorem checkEntryTexts_eq_ok_iff (room : Nat) (entries : List (Scalar × Value)) :
    checkEntryTexts room entries = .ok () ↔ AreShort (entryIntegers entries) ∧ entryDepths entries ≤ room := by
  cases entries with
  | nil => exact iff_of_true rfl ⟨nofun, room.zero_le⟩
  | cons entry rest =>
    obtain ⟨key, v⟩ := entry
    rw [checkEntryTexts, Fault.bind_eq_ok_iff, Fault.bind_eq_ok_iff, key.checkText_eq_ok_iff, checkText_eq_ok_iff room v,
      checkEntryTexts_eq_ok_iff room rest, entryIntegers, entryDepths, areShort_append, areShort_append, Nat.max_le]
    constructor
    · rintro ⟨hkey, ⟨hv, hdepth⟩, hrest, hdepths⟩
      exact ⟨⟨⟨hkey, hv⟩, hrest⟩, hdepth, hdepths⟩
    · rintro ⟨⟨⟨hkey, hv⟩, hrest⟩, hdepth, hdepths⟩
      exact ⟨hkey, ⟨hv, hdepth⟩, hrest, hdepths⟩

end

mutual

/-- Only an integer or the depth of a value keeps it from being written out. -/
theorem unreadable_or_tooDeep_of_checkText {room : Nat} {v : Value} {fault : Fault}
    (h : v.checkText room = .error fault) : fault = .unreadable ∨ fault = .tooDeep := by
  cases v with
  | scalar s => exact .inl (Scalar.eq_unreadable_of_checkText ((checkText_scalar room s).symm.trans h))
  | list items =>
    cases room with
    | zero => exact .inr (Except.error.inj h).symm
    | succ room => exact unreadable_or_tooDeep_of_checkTexts h
  | map entries =>
    cases room with
    | zero => exact .inr (Except.error.inj h).symm
    | succ room => exact unreadable_or_tooDeep_of_checkEntryTexts h

theorem unreadable_or_tooDeep_of_checkTexts {room : Nat} {items : List Value} {fault : Fault}
    (h : checkTexts room items = .error fault) : fault = .unreadable ∨ fault = .tooDeep := by
  cases items with
  | nil => contradiction
  | cons v rest =>
    rcases Fault.eq_error_of_bind h with hv | ⟨_, -, hrest⟩
    · exact unreadable_or_tooDeep_of_checkText hv
    · exact unreadable_or_tooDeep_of_checkTexts hrest

theorem unreadable_or_tooDeep_of_checkEntryTexts {room : Nat} {entries : List (Scalar × Value)} {fault : Fault}
    (h : checkEntryTexts room entries = .error fault) : fault = .unreadable ∨ fault = .tooDeep := by
  cases entries with
  | nil => contradiction
  | cons entry rest =>
    rcases Fault.eq_error_of_bind h with hkey | ⟨_, -, h⟩
    · exact .inl (Scalar.eq_unreadable_of_checkText hkey)
    · rcases Fault.eq_error_of_bind h with hv | ⟨_, -, hrest⟩
      · exact unreadable_or_tooDeep_of_checkText hv
      · exact unreadable_or_tooDeep_of_checkEntryTexts hrest

end

/-! ## Parts -/

theorem checkTexts_eq_ok_iff_forall (room : Nat) (items : List Value) :
    checkTexts room items = .ok () ↔ ∀ v ∈ items, v.checkText room = .ok () := by
  induction items with
  | nil => exact iff_of_true rfl (List.forall_mem_nil _)
  | cons v rest ih => rw [checkTexts, Fault.bind_eq_ok_iff, ih, List.forall_mem_cons]

theorem checkEntryTexts_eq_ok_iff_forall (room : Nat) (entries : List (Scalar × Value)) :
    checkEntryTexts room entries = .ok () ↔
      ∀ entry ∈ entries, entry.1.checkText = .ok () ∧ entry.2.checkText room = .ok () := by
  induction entries with
  | nil => exact iff_of_true rfl (List.forall_mem_nil _)
  | cons entry rest ih =>
    rw [checkEntryTexts, Fault.bind_eq_ok_iff, Fault.bind_eq_ok_iff, ih, List.forall_mem_cons, and_assoc]

/-- More room does no harm. -/
theorem checkText_succ {room : Nat} {v : Value} (h : v.checkText room = .ok ()) : v.checkText (room + 1) = .ok () := by
  rw [checkText_eq_ok_iff] at h ⊢
  exact ⟨h.1, Nat.le_succ_of_le h.2⟩

/-- Whether a value is another one or stands in it, at any depth: as an item of a list or as the value of an entry. -/
inductive IsIn (v : Value) : Value → Prop where
  | refl : IsIn v v
  | item {items : List Value} {w : Value} (mem : w ∈ items) (isIn : IsIn v w) : IsIn v (.list items)
  | entry {entries : List (Scalar × Value)} {key : Scalar} {w : Value} (mem : (key, w) ∈ entries)
      (isIn : IsIn v w) : IsIn v (.map entries)

/-- Every part of a value that can be written out can be. -/
theorem IsIn.checkText {room : Nat} {v w : Value} (h : v.IsIn w) (hw : w.checkText room = .ok ()) :
    v.checkText room = .ok () := by
  induction h generalizing room with
  | refl => exact hw
  | item mem _ ih =>
    cases room with
    | zero => contradiction
    | succ room => exact checkText_succ (ih ((checkTexts_eq_ok_iff_forall room _).1 hw _ mem))
  | entry mem _ ih =>
    cases room with
    | zero => contradiction
    | succ room => exact checkText_succ (ih ((checkEntryTexts_eq_ok_iff_forall room _).1 hw _ mem).2)

/-! ## Values that say nothing -/

/-- A value that says nothing can be written out. -/
theorem checkText_of_not_isPresent {v : Value} (h : v.isPresent = false) {room : Nat} (hroom : room ≠ 0) :
    v.checkText room = .ok () := by
  obtain ⟨room, rfl⟩ := Nat.exists_eq_succ_of_ne_zero hroom
  cases v with
  | scalar s =>
    cases s with
    | int n =>
      have hn : n = 0 := by simpa [isPresent, Scalar.isPresent] using h
      rw [checkText_scalar, Scalar.checkText, hn, Int.natAbs_zero, if_neg (Nat.not_le_of_lt (tenPow_pos _))]
    | _ => rfl
  | list items =>
    have hitems : items = [] := by simpa [isPresent] using h
    rw [hitems]
    rfl
  | map entries =>
    have hentries : entries = [] := by simpa [isPresent] using h
    rw [hentries]
    rfl

/-- With a text in the place of values that say nothing, the same values can be written out. -/
theorem checkText_orElse_text (v : Value) (s : String) {room : Nat} (hroom : room ≠ 0) :
    (v.orElse (.text s)).checkText room = v.checkText room := by
  unfold orElse
  split
  case isTrue => rfl
  case isFalse h =>
    rw [v.checkText_of_not_isPresent (by simpa using h) hroom, checkText_scalar]
    rfl

end Value

end ODataBrowser
