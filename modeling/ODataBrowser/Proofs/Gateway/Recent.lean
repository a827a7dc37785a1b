import Mathlib.Data.List.Dedup
import Mathlib.Data.List.DropRight
import ODataBrowser.Gateway.Recent

/-!
# The most recently used entries

Names that are used one after the other, each listed at its last use, are the names without duplicates
(`List.dedup`); the most recently used ones are the last of these. One more use moves a name to the end
(`dedup_concat`), and it is all the same whether names are forgotten before it or only behind it
(`rtake_filter_concat`). Entries behave as their names do: one that is touched becomes the last one
(`Recent.keys_touch`), and trimming keeps the last ones (`Recent.trim_eq`).
-/

namespace ODataBrowser

/-! ## Names in the order of their last use -/

section Names

variable {α : Type}

theorem length_rtake (xs : List α) (n : Nat) : (xs.rtake n).length = min n xs.length := by
  rw [List.rtake, List.length_drop]
  omega

theorem rtake_of_length_le {xs : List α} {n : Nat} (h : xs.length ≤ n) : xs.rtake n = xs := by
  rw [List.rtake, Nat.sub_eq_zero_of_le h, List.drop_zero]

theorem rtake_suffix (xs : List α) (n : Nat) : xs.rtake n <:+ xs :=
  List.drop_suffix _ xs

theorem rtake_append_of_le (xs : List α) {ys : List α} {n : Nat} (h : n ≤ ys.length) :
    (xs ++ ys).rtake n = ys.rtake n := by
  rw [List.rtake, List.rtake, List.length_append, Nat.add_sub_assoc h, ← List.drop_drop, List.drop_left]

theorem rtake_map {β : Type} (f : α → β) (xs : List α) (n : Nat) : (xs.map f).rtake n = (xs.rtake n).map f := by
  rw [List.rtake, List.rtake, List.length_map, List.map_drop]

variable [DecidableEq α]

theorem dedup_append_filter (xs ys : List α) :
    (xs ++ ys).dedup = xs.dedup.filter (· ∉ ys) ++ ys.dedup := by
  induction xs with
  | nil => simp
  | cons x xs ih =>
    by_cases hxs : x ∈ xs
    · rw [List.cons_append, List.dedup_cons_of_mem (List.mem_append_left ys hxs), List.dedup_cons_of_mem hxs, ih]
    · by_cases hys : x ∈ ys
      · rw [List.cons_append, List.dedup_cons_of_mem (List.mem_append_right xs hys),
          List.dedup_cons_of_notMem hxs, List.filter_cons_of_neg (by simpa using hys), ih]
      · rw [List.cons_append, List.dedup_cons_of_notMem (by simp [hxs, hys]), List.dedup_cons_of_notMem hxs,
          List.filter_cons_of_pos (by simpa using hys), ih, List.cons_append]

/-- One more use moves a name to the end. -/
theorem dedup_concat (xs : List α) (x : α) : (xs ++ [x]).dedup = xs.dedup.filter (· ≠ x) ++ [x] := by
  rw [dedup_append_filter]
  simp

/-- It is all the same whether the least recently used names are forgotten before a use or only behind it. -/
theorem rtake_filter_concat {xs : List α} (h : xs.Nodup) (x : α) (n : Nat) :
    ((xs.rtake n).filter (· ≠ x) ++ [x]).rtake n = (xs.filter (· ≠ x) ++ [x]).rtake n := by
  cases n with
  | zero => simp
  | succ n =>
    rw [List.rtake_concat_succ, List.rtake_concat_succ]
    congr 1
    rcases Nat.lt_or_ge xs.length (n + 1) with hshort | hlong
    · rw [rtake_of_length_le hshort.le]
    · -- Of the last `n + 1` names at most one is the one that is used.
      have hnodup : (xs.rtake (n + 1)).Nodup := h.sublist (rtake_suffix xs (n + 1)).sublist
      have hkept : n ≤ ((xs.rtake (n + 1)).filter (· ≠ x)).length := by
        have hlength := length_rtake xs (n + 1)
        have herase : (xs.rtake (n + 1)).length - 1 ≤ ((xs.rtake (n + 1)).erase x).length := List.le_length_erase
        rw [hnodup.erase_eq_filter, hlength, min_eq_left hlong] at herase
        simpa [bne, beq_eq_decide] using herase
      obtain ⟨dropped, hdropped⟩ := rtake_suffix xs (n + 1)
      conv_rhs => rw [← hdropped, List.filter_append]
      exact (rtake_append_of_le _ hkept).symm

/-- A name is among the most recently used ones just if fewer others have been used since. -/
theorem mem_rtake_dedup_iff {before between : List α} {x : α} (h : x ∉ between) (n : Nat) :
    x ∈ (before ++ x :: between).dedup.rtake n ↔ between.dedup.length < n := by
  obtain ⟨rest, hrest⟩ : ∃ rest, (before ++ x :: between).dedup = rest ++ ([x] ++ between.dedup) := by
    rw [dedup_append_filter, List.dedup_cons_of_notMem h]
    exact ⟨_, rfl⟩
  rw [hrest]
  constructor
  · intro hmem
    by_contra hmany
    rw [← List.append_assoc, rtake_append_of_le _ (Nat.not_lt.1 hmany)] at hmem
    exact h (List.mem_dedup.1 ((rtake_suffix _ n).subset hmem))
  · intro hfew
    have hlength : (rest ++ ([x] ++ between.dedup)).length - n ≤ rest.length := by
      simp only [List.length_append, List.length_singleton]
      omega
    rw [List.rtake, List.drop_append_of_le_length hlength]
    simp

end Names

namespace Recent

variable {α : Type} {r : Recent α} {name : String}

/-! ## Entries under names -/

/-- A text is the same as itself only, so the entry under a name is the one whose key is this name. -/
theorem same_text (key : Scalar) (name : String) : key.same (.text name) = decide (key = .text name) := by
  rw [Bool.eq_iff_iff, decide_eq_true_iff]
  exact Scalar.same_textual_iff

theorem key_of_find? {entry : Scalar × α} (h : r.find? (.text name) = some entry) : entry.1 = .text name := by
  have hsame := List.find?_some h
  exact Scalar.same_textual_iff.1 hsame

theorem mem_of_find? {entry : α} (h : r.find? (.text name) = some (.text name, entry)) : (.text name, entry) ∈ r :=
  List.mem_of_find?_eq_some h

theorem isSome_find?_iff : (r.find? (.text name)).isSome = true ↔ .text name ∈ r.keys := by
  simp [find?, keys, same_text]

/-- Where keys are listed once, an entry is the one under its name. -/
theorem find?_of_mem (hkeys : r.keys.Nodup) {entry : α} (h : (.text name, entry) ∈ r) :
    r.find? (.text name) = some (.text name, entry) := by
  obtain ⟨found, hfound⟩ := Option.isSome_iff_exists.1 (isSome_find?_iff.2 (List.mem_map_of_mem h))
  have heq : found = (.text name, entry) :=
    List.inj_on_of_nodup_map hkeys (List.mem_of_find?_eq_some hfound) h (key_of_find? hfound)
  rw [hfound, heq]

@[simp] theorem length_keys : r.keys.length = r.length :=
  List.length_map _

theorem keys_rtake (n : Nat) : keys (r.rtake n) = r.keys.rtake n :=
  (rtake_map _ r n).symm

/-! ## Touching -/

theorem keys_without : (r.without (.text name)).keys = r.keys.filter (· ≠ .text name) := by
  simp [keys, without, same_text, List.filter_map, Function.comp_def]

/-- An entry that is touched is the last one. -/
theorem keys_touch (entry : α) :
    (r.touch (.text name) entry).keys = r.keys.filter (· ≠ .text name) ++ [.text name] := by
  rw [touch, keys, List.map_append, ← keys, keys_without]
  rfl

theorem nodup_keys_touch (h : r.keys.Nodup) (entry : α) : (r.touch (.text name) entry).keys.Nodup := by
  rw [keys_touch, ← List.concat_eq_append]
  exact (h.filter _).concat (by simp)

theorem find?_touch_self (entry : α) :
    (r.touch (.text name) entry).find? (.text name) = some (.text name, entry) := by
  have hothers : List.find? (·.1.same (.text name)) (r.without (.text name)) = none := by
    simp [without]
  rw [touch, find?, List.find?_append, hothers]
  simp [same_text]

theorem find?_touch_of_ne {other : String} (h : other ≠ name) (entry : α) :
    (r.touch (.text other) entry).find? (.text name) = r.find? (.text name) := by
  have hothers : List.find? (·.1.same (.text name)) (r.without (.text other)) = r.find? (.text name) := by
    rw [without, List.find?_filter, find?]
    congr 1
    funext e
    by_cases hname : e.1 = .text name <;> simp [same_text, hname, h.symm]
  rw [touch, find?, List.find?_append, hothers]
  simp [same_text, h]

/-- An entry that is there only changes its place. -/
theorem length_touch_le_of_isSome (h : (r.find? (.text name)).isSome = true) (entry : α) :
    (r.touch (.text name) entry).length ≤ r.length := by
  have hkeys := isSome_find?_iff.1 h
  rw [← length_keys, ← length_keys, keys_touch, List.length_append, List.length_singleton]
  refine List.length_filter_lt_length_iff_exists.2 ⟨_, hkeys, by simp⟩

/-! ## Trimming and updating -/

/-- Trimming keeps the most recently used entries. -/
theorem trim_eq {isTooMany : Nat → Except Fault Bool} {n : Nat}
    (h : ∀ count, isTooMany count = .ok (decide (n < count))) : r.trim isTooMany = (.ok (), r.rtake n) := by
  induction r with
  | nil =>
    rw [trim, h]
    simp [Except.bind]
  | cons entry rest ih =>
    rw [trim, h]
    by_cases hmany : n < rest.length + 1
    · rw [decide_eq_true hmany]
      dsimp only
      rw [ih, ← List.singleton_append, rtake_append_of_le _ (Nat.le_of_lt_succ hmany)]
    · rw [decide_eq_false hmany]
      dsimp only
      rw [rtake_of_length_le (Nat.not_lt.1 hmany)]

@[simp] theorem keys_update (key : Scalar) (entry : α) : (r.update key entry).keys = r.keys := by
  rw [update, keys, keys, List.map_map]
  refine List.map_congr_left fun e _ => ?_
  rw [Function.comp_apply]
  split <;> rfl

/-- An update is found by the keys as they were. -/
theorem find?_update (key : Scalar) (entry : α) :
    (r.update key entry).find? (.text name) =
      (r.find? (.text name)).map fun old => if old.1.same key then (old.1, entry) else old := by
  rw [update, find?, find?, List.find?_map]
  congr 2
  funext old
  rw [Function.comp_apply]
  split <;> rfl

/-- An update changes the entry under its name. -/
theorem find?_update_self (entry : α) :
    (r.update (.text name) entry).find? (.text name) = (r.find? (.text name)).map fun old => (old.1, entry) := by
  rw [find?_update]
  refine Option.map_congr fun old hold => ?_
  rw [if_pos (List.find?_some hold :)]

/-- An update leaves the entries under other names. -/
theorem find?_update_of_ne {other : String} (h : other ≠ name) (entry : α) :
    (r.update (.text other) entry).find? (.text name) = r.find? (.text name) := by
  rw [find?_update]
  cases hold : r.find? (.text name) with
  | none => rfl
  | some old =>
    have hkey : old.1 ≠ .text other := by
      rw [key_of_find? hold]
      simpa using h.symm
    rw [Option.map_some, if_neg (by simpa [same_text] using hkey)]

end Recent

end ODataBrowser
