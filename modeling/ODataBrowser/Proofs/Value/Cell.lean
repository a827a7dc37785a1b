import ODataBrowser.Proofs.Json.Bounds
import ODataBrowser.Proofs.Query.LegacyDate

/-!
# Cells of a response

Every value that a response can hold is shown as a text, with one exception: a legacy date whose offset is a day or
longer, which no zone has, is a fault (`cellText_of_response`). So a page with such a date cannot be shown
(`cellText_fails`).
-/

namespace ODataBrowser

open LegacyDate

/-! ## Offsets of a day or longer -/

/-- Whether a value is the text of a legacy date whose offset is a day or longer. -/
def Value.HasLongOffset (v : Value) : Prop :=
  ∃ w : WrittenLegacyDate, v = .text (String.ofList w.text) ∧ ∃ z ∈ w.offset, 24 * 60 ≤ z.value.2

theorem isOffsetTooLong_iff (w : WrittenLegacyDate) :
    w.parts.isOffsetTooLong = true ↔ ∃ z ∈ w.offset, 24 * 60 ≤ z.value.2 := by
  rw [Parts.isOffsetTooLong, decide_eq_true_iff, Parts.offsetMicros, WrittenLegacyDate.parts]
  dsimp only
  cases hoffset : w.offset with
  | none => simp [microsPerDay]
  | some z =>
    have habs : (if z.value.1 then -((z.value.2 * 60000000 : Nat) : Int) else (z.value.2 * 60000000 : Nat)).natAbs =
        z.value.2 * 60000000 := by
      split
      · rw [Int.natAbs_neg, Int.natAbs_natCast]
      · exact Int.natAbs_natCast _
    simp only [Option.map_some, habs, Option.mem_def, Option.some.injEq, exists_eq_left', microsPerDay]
    omega

/-- The parts of a text tell whether it has a long offset. -/
theorem hasLongOffset_text_iff {s : String} :
    (Value.text s).HasLongOffset ↔ ∃ p, readParts s.toList = some p ∧ p.isOffsetTooLong = true := by
  constructor
  · rintro ⟨w, hw, hlong⟩
    obtain rfl : s = String.ofList w.text := by simpa using hw
    refine ⟨w.parts, ?_, (isOffsetTooLong_iff w).2 hlong⟩
    rw [String.toList_ofList, readParts_text]
  · rintro ⟨p, hp, hlong⟩
    obtain ⟨w, hw, rfl⟩ := exists_of_readParts hp
    refine ⟨w, ?_, (isOffsetTooLong_iff w).1 hlong⟩
    rw [← hw, String.ofList_toList]

/-- Only an offset of a day or longer keeps a value from being read as a legacy date or as none. -/
theorem readLegacyDate_eq_error_iff {v : Value} {fault : Fault} :
    readLegacyDate v = .error fault ↔ fault = .unreadable ∧ v.HasLongOffset := by
  constructor
  · intro h
    unfold readLegacyDate at h
    split at h
    case h_2 => contradiction
    case h_1 s =>
      split at h
      case h_1 => contradiction
      case h_2 p hp =>
        split at h
        case isFalse => contradiction
        case isTrue hlong => exact ⟨(Except.error.inj h).symm, hasLongOffset_text_iff.2 ⟨p, hp, hlong⟩⟩
  · rintro ⟨rfl, w, rfl, hlong⟩
    rw [readLegacyDate_text, if_pos ((isOffsetTooLong_iff w).2 hlong)]

/-! ## Cells -/

/-- A scalar that can be written out is shown unless it cannot be told whether it is a legacy date. -/
theorem cellText_scalar_eq_error_iff {s : Scalar} (hs : s.checkText = .ok ()) {fault : Fault} :
    cellText (.scalar s) = .error fault ↔ readLegacyDate (.scalar s) = .error fault := by
  unfold cellText
  split
  case h_1 h => simp [Value.scalar.inj h, readLegacyDate]
  case h_2 h => simp [Value.scalar.inj h, readLegacyDate]
  case h_4 h => exact absurd rfl (h s)
  case h_3 h =>
    obtain rfl := Value.scalar.inj h
    constructor
    · intro hcell
      rcases Fault.eq_error_of_bind hcell with hdate | ⟨date?, -, hshown⟩
      · exact hdate
      · cases date? with
        | none =>
          rw [hs] at hshown
          contradiction
        | some t => contradiction
    · intro hdate
      rw [hdate]
      rfl

/-- A list or a map that can be written out is shown as compact JSON. -/
theorem cellText_of_not_scalar {v : Value} (hv : v.checkText Value.maxDepth = .ok ()) (hscalar : ∀ s, v ≠ .scalar s) :
    cellText v = .ok ((Json.write? v).getD v.literal) := by
  cases v with
  | scalar s => exact absurd rfl (hscalar s)
  | list items =>
    change ((Value.list items).checkText Value.maxDepth >>= fun _ => _) = _
    rw [hv]
    rfl
  | map entries =>
    change ((Value.map entries).checkText Value.maxDepth >>= fun _ => _) = _
    rw [hv]
    rfl

/-- A value that can be written out is shown unless it is a legacy date with an offset of a day or longer. -/
theorem cellText_eq_error_iff {v : Value} (hv : v.checkText Value.maxDepth = .ok ()) {fault : Fault} :
    cellText v = .error fault ↔ fault = .unreadable ∧ v.HasLongOffset := by
  rw [← readLegacyDate_eq_error_iff]
  cases v with
  | scalar s => exact cellText_scalar_eq_error_iff ((Value.checkText_scalar _ s).symm.trans hv)
  | list items => simp [cellText_of_not_scalar hv, readLegacyDate]
  | map entries => simp [cellText_of_not_scalar hv, readLegacyDate]

/-- **Cells of a response.** For every value that stands in a response, at any depth, it can be told whether it is a
legacy date, and it is shown as a text, unless it is a legacy date with an offset of a day or longer. Then both are
faults. -/
theorem cellText_of_response {body : String} {response v : Value} (hread : Json.read? body = .ok (some response))
    (hv : v.IsIn response) :
    (¬v.HasLongOffset → (∃ date?, readLegacyDate v = .ok date?) ∧ ∃ text, cellText v = .ok text) ∧
    (v.HasLongOffset → readLegacyDate v = .error .unreadable ∧ cellText v = .error .unreadable) := by
  have hcheck := hv.checkText (Json.checkText_of_read? hread)
  constructor
  · intro hshort
    constructor
    · cases hdate : readLegacyDate v with
      | error fault => exact absurd (readLegacyDate_eq_error_iff.1 hdate).2 hshort
      | ok date? => exact ⟨date?, rfl⟩
    · cases htext : cellText v with
      | error fault => exact absurd ((cellText_eq_error_iff hcheck).1 htext).2 hshort
      | ok text => exact ⟨text, rfl⟩
  · intro hlong
    exact ⟨readLegacyDate_eq_error_iff.2 ⟨rfl, hlong⟩, (cellText_eq_error_iff hcheck).2 ⟨rfl, hlong⟩⟩

/-- Of two dates in a row of a response, the one with the longest offset below a day is shown, and the one with the next
offset is a fault. -/
theorem cellText_of_response_of_two_offsets :
    let body := "[\x7b\"from\":\"/Date(0+2359)/\",\"to\":\"/Date(0+2400)/\"\x7d]"
    let first := Value.text "/Date(0+2359)/"
    let last := Value.text "/Date(0+2400)/"
    let response := Value.list [.ofFields [("from", first), ("to", last)]]
    Json.read? body = .ok (some response) ∧ first.IsIn response ∧ last.IsIn response ∧
    ¬first.HasLongOffset ∧ (∃ text, cellText first = .ok text) ∧
    last.HasLongOffset ∧ cellText last = .error .unreadable := by
  intro body first last response
  have hread : Json.read? body = .ok (some response) := Fault.eq_ok_of_toOption (by decide +kernel)
  have hfirst : first.IsIn response := .item List.mem_cons_self (.entry List.mem_cons_self .refl)
  have hlast : last.IsIn response :=
    .item List.mem_cons_self (.entry (List.mem_cons_of_mem _ List.mem_cons_self) .refl)
  have hshort : ¬first.HasLongOffset := by
    rw [hasLongOffset_text_iff]
    rintro ⟨p, hp, hlong⟩
    obtain rfl : (⟨false, ['0'], some (false, 1439)⟩ : Parts) = p := Option.some.inj hp
    contradiction
  have hlong : last.HasLongOffset := hasLongOffset_text_iff.2 ⟨⟨false, ['0'], some (false, 1440)⟩, rfl, rfl⟩
  exact ⟨hread, hfirst, hlast, hshort, ((cellText_of_response hread hfirst).1 hshort).2, hlong,
    ((cellText_of_response hread hlast).2 hlong).2⟩

/-- A response whose only cell can neither be read as a legacy date nor be shown. -/
theorem cellText_fails :
    let cell := Value.text "/Date(0+2400)/"
    Json.read? "[\"/Date(0+2400)/\"]" = .ok (some (.list [cell])) ∧ cell.IsIn (.list [cell]) ∧
    readLegacyDate cell = .error .unreadable ∧ cellText cell = .error .unreadable := by
  intro cell
  exact ⟨Fault.eq_ok_of_toOption (by decide +kernel), .item List.mem_cons_self .refl, rfl, rfl⟩

end ODataBrowser
