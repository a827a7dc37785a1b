import ODataBrowser.Proofs.Json.Refusal
import ODataBrowser.Proofs.Service.Answer

/-!
# The dialects of error messages

A service may put a message into JSON or XML and there into one of several places. `ErrorMessage.Carries` says so
without the order in which the places are looked at. The message that is found is the same in all of them
(`ErrorMessage.ofResponse_of_carries`).
-/

namespace ODataBrowser.ErrorMessage

open Text

variable {v : Value} {t m : JsonText}

/-! ## Messages in JSON -/

/-- Whether a value gives a text as a message: it is the text, or an object with the text as its `value`. -/
def Gives (v : Value) (t : JsonText) : Prop :=
  v = .textual t ∨ v.field "value" = .textual t

theorem candidate?_eq_some_iff {found : JsonText} :
    candidate? v = some found ↔ ∃ t, Gives v t ∧ t.strip = found ∧ found.isEmpty = false := by
  have hkept (t : JsonText) : (if t.strip.isEmpty then none else some t.strip) = some found ↔
      t.strip = found ∧ found.isEmpty = false := by
    simp only [Option.ite_none_left_eq_some, Option.some.injEq, Bool.not_eq_true]
    constructor
    · rintro ⟨hne, rfl⟩
      exact ⟨rfl, hne⟩
    · rintro ⟨rfl, hne⟩
      exact ⟨hne, rfl⟩
  unfold candidate? Gives
  cases v with
  | list items => simp [Value.field]
  | scalar s =>
    dsimp only
    split
    · rename_i t heq
      simp [hkept, heq, Value.field]
    · rename_i hother
      have hnone (t : JsonText) : Value.scalar s ≠ .textual t := hother t
      simp [hnone, Value.field]
  | map entries =>
    dsimp only
    split
    · rename_i t heq
      simp [hkept, heq]
    · rename_i hother
      have hnone (t : JsonText) : (Value.map entries).field "value" ≠ .textual t := hother t
      simp [hnone]

theorem candidate?_of_gives (h : Gives v t) (ht : t.strip.isEmpty = false) : candidate? v = some t.strip :=
  candidate?_eq_some_iff.2 ⟨t, h, rfl, ht⟩

/-- A value that gives no text, or a blank one, is no message. -/
theorem candidate?_eq_none (h : ∀ t, Gives v t → t.strip.isEmpty = true) : candidate? v = none := by
  rw [Option.eq_none_iff_forall_ne_some]
  intro found hfound
  obtain ⟨t, hgives, rfl, hne⟩ := candidate?_eq_some_iff.1 hfound
  exact absurd (h t hgives) (by simp [hne])

/-! ## Messages in all dialects -/

/-- Whether a body carries a message, but for white space around it. -/
inductive Carries (m : JsonText) (body : String) : Prop where
  /-- In JSON, as the message of its error. -/
  | error {v : Value} {t : JsonText} (read : Json.read? body = .ok (some v))
      (gives : Gives ((v.field "error").field "message") t) (same : t.strip = m.strip)
  /-- In JSON, as its message, where an error in it has none that can be used. -/
  | message {v : Value} {t : JsonText} (read : Json.read? body = .ok (some v))
      (unusable : ∀ u, Gives ((v.field "error").field "message") u → u.strip.isEmpty = true)
      (gives : Gives (v.field "message") t) (same : t.strip = m.strip)
  /-- In XML, as the text of the first element of this name that is not blank. -/
  | xml {root node : Xml.Node} (start : (stripStart body.toList).head? = some '<') (read : Xml.read? body = some root)
      (first : root.elements.find? (fun node => node.isNamed "message" && !(strip node.leadingText).isEmpty) =
        some node)
      (same : .string (String.ofList (strip node.leadingText)) = m.strip)

theorem ofXml?_of_first {body : String} {root node : Xml.Node} (hstart : (stripStart body.toList).head? = some '<')
    (hread : Xml.read? body = some root)
    (hfirst : root.elements.find? (fun node => node.isNamed "message" && !(strip node.leadingText).isEmpty) =
      some node) :
    ofXml? body = some (String.ofList (strip node.leadingText)) := by
  obtain ⟨hnode, before, after, helements, hbefore⟩ := List.find?_eq_some_iff_append.1 hfirst
  obtain ⟨hnamed, hnonblank⟩ := (Bool.and_eq_true _ _).mp hnode
  rw [Bool.not_eq_true'] at hnonblank
  rw [ofXml?, if_pos hstart, hread, Option.bind_some, helements, List.filter_append,
    List.filter_cons_of_pos hnamed, List.findSome?_append, List.findSome?_eq_none_iff.2, Option.none_or]
  · rw [List.findSome?_cons]
    simp [List.isEmpty_eq_false_iff.1 hnonblank]
  · intro other hother
    obtain ⟨hmem, hsame⟩ := List.mem_filter.1 hother
    have hblank := hbefore other hmem
    rw [hsame] at hblank
    simpa using hblank

/-- **A message is found in every dialect.** -/
theorem ofResponse_of_carries {r : Response} (hm : m.strip.isEmpty = false) (h : Carries m r.body) :
    ofResponse r = .ok m.strip := by
  unfold ofResponse
  cases h with
  | @error v t read gives same =>
    have hjson : ofJson? v = some m.strip := by
      rw [ofJson?, candidate?_of_gives gives (same ▸ hm), same]
      rfl
    rw [read]
    change Except.ok ((ofJson? v).getD _) = _
    rw [hjson, Option.getD_some]
  | @message v t read unusable gives same =>
    have hjson : ofJson? v = some m.strip := by
      rw [ofJson?, candidate?_eq_none unusable, candidate?_of_gives gives (same ▸ hm), same]
      rfl
    rw [read]
    change Except.ok ((ofJson? v).getD _) = _
    rw [hjson, Option.getD_some]
  | xml start read first same =>
    rw [Json.read?_of_markup start, ofXml?_of_first start read first]
    exact congrArg Except.ok same

/-! ## Bodies that are not read -/

/-- A long object that is not read carries no message, whatever stands in it, so the status speaks. -/
theorem ofResponse_of_unread {r : Response} {cs : List Char} (hread : Json.read? r.body = .ok none)
    (hbody : r.body = String.ofList ('\x7b' :: (cs ++ ['\x7d']))) (hlong : 300 ≤ cs.length) :
    ofResponse r = .ok (.string (ofStatus r.status r.reason)) := by
  have hchars : r.body.toList = '\x7b' :: (cs ++ ['\x7d']) := by rw [hbody, String.toList_ofList]
  have hxml : ofXml? r.body = none := by
    rw [ofXml?, hchars, stripStart, List.dropWhile_cons_of_neg (by decide)]
    rfl
  have htext : ofText? r.body = none := by
    have hlength : 300 < ('\x7b' :: (cs ++ ['\x7d'])).length := by simp; omega
    rw [ofText?, hchars, strip_of_ends (by decide) (by decide)]
    simp only [decide_eq_true hlength, Bool.or_true, Bool.true_or, if_true]
  unfold ofResponse
  rw [hread, hxml, htext]
  rfl

end ODataBrowser.ErrorMessage
