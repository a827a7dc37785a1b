import Mathlib.Data.List.TakeWhile
import ODataBrowser.Json.Text
import ODataBrowser.Text.Search

/-!
# Texts put together

A text is made of its code points (`JsonText.points_ofPoints`), and two texts with the same code points are the same
(`JsonText.points_injective`). So a text that is put together from others is known by theirs.
-/

namespace ODataBrowser.JsonText

/-! ## Code points -/

theorem points_ofPointsBehind (before : List Char) (points : List CodePoint) :
    (ofPointsBehind before points).points = before.reverse.map .char ++ points := by
  induction points generalizing before with
  | nil => simp [ofPointsBehind, JsonText.points]
  | cons point rest ih =>
    cases point with
    | char c => rw [ofPointsBehind, ih, List.reverse_cons, List.map_append, List.append_assoc]; rfl
    | lone s => rfl

theorem points_ofPoints (points : List CodePoint) : (ofPoints points).points = points :=
  points_ofPointsBehind [] points

theorem ofPointsBehind_append (before cs : List Char) (points : List CodePoint) :
    ofPointsBehind before (cs.map .char ++ points) = ofPointsBehind (cs.reverse ++ before) points := by
  induction cs generalizing before with
  | nil => rfl
  | cons c cs ih => rw [List.map_cons, List.cons_append, ofPointsBehind, ih, List.reverse_cons, List.append_assoc]; rfl

theorem ofPoints_append_lone (before : List Char) (first : Surrogate) (after : List CodePoint) :
    ofPoints (before.map .char ++ .lone first :: after) = .broken before first after := by
  rw [ofPoints, ofPointsBehind_append, ofPointsBehind, List.append_nil, List.reverse_reverse]

/-- A text is a string just if none of its code points is a lone surrogate. -/
theorem isString_iff {t : JsonText} : t.isString = true ↔ ∀ s, .lone s ∉ t.points := by
  cases t with
  | string s => exact iff_of_true rfl (by simp [points])
  | broken before first after => exact iff_of_false Bool.false_ne_true fun h => h first (by simp [points])

theorem exists_ofChars_of_isString {t : JsonText} (h : t.isString = true) : ∃ cs, t = .ofChars cs := by
  cases t with
  | string s => exact ⟨s.toList, by rw [ofChars, String.ofList_toList]⟩
  | broken before first after => contradiction

theorem ofChars_inj {cs cs' : List Char} : ofChars cs = ofChars cs' ↔ cs = cs' := by
  rw [ofChars, ofChars, string.injEq, String.ofList_inj]

theorem shown_ofChars (cs : List Char) : (ofChars cs).shown = cs :=
  String.toList_ofList

theorem points_ofChars (cs : List Char) : (ofChars cs).points = cs.map .char := by
  rw [ofChars, points, String.toList_ofList]

theorem ofPoints_map_char (cs : List Char) : ofPoints (cs.map .char) = .ofChars cs := by
  have hstring : (ofPoints (cs.map .char)).isString = true :=
    isString_iff.2 fun s => by simp [points_ofPoints]
  obtain ⟨cs', hcs'⟩ := exists_ofChars_of_isString hstring
  have hpoints := points_ofPoints (cs.map .char)
  rw [hcs', points_ofChars, List.map_inj_right fun _ _ => CodePoint.char.inj] at hpoints
  rw [hcs', hpoints]

/-- A text is the one of its code points. -/
theorem ofPoints_points (t : JsonText) : ofPoints t.points = t := by
  cases t with
  | string s =>
    have hstring := ofPoints_map_char s.toList
    rwa [ofChars, String.ofList_toList] at hstring
  | broken before first after => exact ofPoints_append_lone before first after

theorem points_injective : Function.Injective points := fun t u h => by
  rw [← ofPoints_points t, h, ofPoints_points]

/-- What is shown of a text is shown code point by code point. -/
theorem shown_eq_map (t : JsonText) : t.shown = t.points.map CodePoint.shown := by
  cases t with
  | string s =>
    rw [shown, points, List.map_map]
    exact (List.map_id s.toList).symm
  | broken before first after => rfl

/-! ## One text behind another -/

theorem points_append (t u : JsonText) : (t ++ u).points = t.points ++ u.points := by
  change (t.append u).points = t.points ++ u.points
  cases t with
  | string s => cases u <;> simp [append, points]
  | broken before first after => simp [append, points]

theorem append_assoc (t u v : JsonText) : t ++ u ++ v = t ++ (u ++ v) :=
  points_injective (by simp only [points_append, List.append_assoc])

theorem append_empty (t : JsonText) : t ++ "" = t :=
  points_injective (by rw [points_append]; exact List.append_nil _)

theorem shown_append (t u : JsonText) : (t ++ u).shown = t.shown ++ u.shown := by
  rw [shown_eq_map, points_append, List.map_append, ← shown_eq_map, ← shown_eq_map]

/-! ## White space -/

theorem isEmpty_iff {t : JsonText} : t.isEmpty = true ↔ t.points = [] := by
  cases t with
  | string s => rw [isEmpty, points, String.isEmpty_iff, List.map_eq_nil_iff, String.toList_eq_nil_iff]
  | broken before first after => exact iff_of_false Bool.false_ne_true (by simp [points])

theorem points_strip (t : JsonText) :
    t.strip.points =
      Text.dropEndWhile (CodePoint.isCharOf Text.isBlank) (t.points.dropWhile (CodePoint.isCharOf Text.isBlank)) := by
  cases t with
  | string s =>
    rw [strip, points, points, Text.stripped, String.toList_ofList, List.dropWhile_map, Text.strip, Text.dropEndWhile,
      Text.dropEndWhile, ← List.map_reverse, List.dropWhile_map, List.map_reverse]
    rfl
  | broken before first after =>
    rw [strip, points_ofPoints]
    exact nofun

/-- Nothing is left of a text just if it holds nothing but white space. -/
theorem points_strip_eq_nil_iff {t : JsonText} :
    t.strip.points = [] ↔ ∀ p ∈ t.points, p.isCharOf Text.isBlank = true := by
  rw [points_strip, Text.dropEndWhile, List.reverse_eq_nil_iff, List.dropWhile_eq_nil_iff]
  constructor
  · intro h p hp
    rw [← List.takeWhile_append_dropWhile (p := CodePoint.isCharOf Text.isBlank) (l := t.points), List.mem_append] at hp
    rcases hp with hp | hp
    · exact List.mem_takeWhile_imp hp
    · exact h p (List.mem_reverse.2 hp)
  · intro h p hp
    exact h p (List.dropWhile_sublist _ |>.subset (List.mem_reverse.1 hp))

end ODataBrowser.JsonText
