import ODataBrowser.Json.Reader
import ODataBrowser.Proofs.Number.Numeral
import ODataBrowser.Proofs.Value.Text

/-!
# The bounds of what is read

The reader takes no integer with too many digits and nothing that is nested too deeply. These are the bounds within which
a value can be written out, so what is read can be written out (`Json.checkText_of_read?`).
-/

namespace ODataBrowser.Json

/-! ## Numbers -/

theorem isDigit_of_mem_splitDigits {cs : Source} {c : Char} (h : c ∈ (splitDigits cs).1) : c.isDigit = true := by
  obtain ⟨point, hpoint, hchar⟩ := List.mem_filterMap.1 h
  have hdigit := List.mem_takeWhile_imp hpoint
  cases point with
  | char d =>
    obtain rfl := Option.some.inj hchar
    exact hdigit
  | lone s => contradiction

theorem isDigit_of_mem_readWhole {cs rest : Source} {digits : List Char} (h : readWhole cs = some (digits, rest)) :
    ∀ c ∈ digits, c.isDigit = true := by
  unfold readWhole at h
  split at h
  · obtain ⟨rfl, -⟩ := Prod.mk.inj (Option.some.inj h)
    intro c hc
    rw [List.mem_singleton.1 hc]
    rfl
  · unfold readDigits at h
    dsimp only at h
    split at h
    · contradiction
    · obtain ⟨rfl, -⟩ := Prod.mk.inj (Option.some.inj h)
      exact fun c hc => isDigit_of_mem_splitDigits hc

theorem natOfAscii_lt {digits : List Char} (h : ∀ c ∈ digits, c.isDigit = true) {k : Nat} (hk : digits.length ≤ k) :
    natOfAscii digits < tenPow k := by
  have hlt : natOfAscii digits < 10 ^ digits.length := Numeral.ofDigitChars_lt h
  rw [tenPow, Nat.pow_eq]
  exact hlt.trans_le (Nat.pow_le_pow_right (Nat.succ_pos 9) hk)

theorem checkText_of_readNumber {cs rest : Source} {v : Value} (h : readNumber cs = .ok (v, rest)) (room : Nat) :
    v.checkText room = .ok () := by
  unfold readNumber at h
  split at h
  rename_i negative behind hsign
  split at h
  case h_1 => contradiction
  case h_2 whole tail hwhole =>
    dsimp only at h
    split at h
    case isTrue =>
      split at h
      case isTrue => contradiction
      case isFalse hlength =>
        obtain ⟨rfl, -⟩ := Prod.mk.inj (Except.ok.inj h)
        rw [Value.checkText_scalar, Scalar.checkText_eq_ok_iff]
        have hlt := natOfAscii_lt (isDigit_of_mem_readWhole hwhole) (Nat.not_lt.1 hlength)
        intro n hn
        rw [List.mem_singleton.1 hn]
        split
        · rwa [Int.natAbs_neg]
        · exact hlt
    case isFalse =>
      obtain ⟨rfl, -⟩ := Prod.mk.inj (Except.ok.inj h)
      rw [Value.checkText_scalar]
      rfl

theorem checkText_of_readAtom {cs rest : Source} {v : Value} (h : readAtom cs = .ok (v, rest)) (room : Nat) :
    v.checkText room = .ok () := by
  unfold readAtom at h
  split at h
  case h_1 word w hfind =>
    obtain ⟨rfl, -⟩ := Prod.mk.inj (Except.ok.inj h)
    -- The words stand for values without digits.
    have hwords : ∀ entry ∈ words, entry.2.checkText room = .ok () := by simp [words, Scalar.checkText]
    exact hwords _ (List.mem_of_find?_eq_some hfind)
  case h_2 => exact checkText_of_readNumber h room

/-! ## Values -/

theorem checkEntryTexts_putField {room : Nat} {fields : List (Scalar × Value)} {v : Value}
    (hfields : Value.checkEntryTexts room fields = .ok ()) (name : JsonText) (hv : v.checkText room = .ok ()) :
    Value.checkEntryTexts room (putField fields name v) = .ok () := by
  rw [Value.checkEntryTexts_eq_ok_iff_forall] at hfields ⊢
  unfold putField
  split
  · intro entry hentry
    obtain ⟨field, hfield, rfl⟩ := List.mem_map.1 hentry
    split
    · exact ⟨(hfields field hfield).1, hv⟩
    · exact hfields field hfield
  · intro entry hentry
    rcases List.mem_append.1 hentry with hentry | hentry
    · exact hfields entry hentry
    · rw [List.mem_singleton.1 hentry]
      exact ⟨rfl, hv⟩

mutual

/-- What is read in some room can be written out in that room. -/
theorem checkText_of_readValue (fuel : Nat) {room : Nat} {cs rest : Source} {v : Value}
    (h : readValue fuel room cs = .ok (v, rest)) : v.checkText room = .ok () := by
  cases fuel with
  | zero => contradiction
  | succ fuel =>
    unfold readValue at h
    split at h
    case h_1 =>
      obtain ⟨⟨t, tail⟩, -, h⟩ := Fault.exists_of_bind_eq_ok h
      obtain ⟨rfl, -⟩ := Prod.mk.inj (Except.ok.inj h)
      rw [Value.checkText_scalar]
      rfl
    case h_2 =>
      split at h
      case h_1 => contradiction
      case h_2 =>
        obtain ⟨rfl, -⟩ := Prod.mk.inj (Except.ok.inj h)
        rfl
      case h_3 =>
        obtain ⟨⟨items, tail⟩, hread, h⟩ := Fault.exists_of_bind_eq_ok h
        obtain ⟨rfl, -⟩ := Prod.mk.inj (Except.ok.inj h)
        exact checkTexts_of_readItems fuel hread
    case h_3 =>
      split at h
      case h_1 => contradiction
      case h_2 =>
        obtain ⟨rfl, -⟩ := Prod.mk.inj (Except.ok.inj h)
        rfl
      case h_3 =>
        obtain ⟨⟨fields, tail⟩, hread, h⟩ := Fault.exists_of_bind_eq_ok h
        obtain ⟨rfl, -⟩ := Prod.mk.inj (Except.ok.inj h)
        exact checkEntryTexts_of_readFields fuel rfl hread
    case h_4 => exact checkText_of_readAtom h room

theorem checkTexts_of_readItems (fuel : Nat) {room : Nat} {cs rest : Source} {items : List Value}
    (h : readItems fuel room cs = .ok (items, rest)) : Value.checkTexts room items = .ok () := by
  cases fuel with
  | zero => contradiction
  | succ fuel =>
    unfold readItems at h
    obtain ⟨⟨v, tail⟩, hread, h⟩ := Fault.exists_of_bind_eq_ok h
    have hv := checkText_of_readValue fuel hread
    dsimp only at h
    split at h
    case h_1 =>
      obtain ⟨rfl, -⟩ := Prod.mk.inj (Except.ok.inj h)
      exact Fault.bind_eq_ok_iff.2 ⟨hv, rfl⟩
    case h_2 =>
      obtain ⟨⟨others, tail⟩, hmore, h⟩ := Fault.exists_of_bind_eq_ok h
      obtain ⟨rfl, -⟩ := Prod.mk.inj (Except.ok.inj h)
      exact Fault.bind_eq_ok_iff.2 ⟨hv, checkTexts_of_readItems fuel hmore⟩
    case h_3 => contradiction

theorem checkEntryTexts_of_readFields (fuel : Nat) {room : Nat} {cs rest : Source}
    {before fields : List (Scalar × Value)} (hbefore : Value.checkEntryTexts room before = .ok ())
    (h : readFields fuel room before cs = .ok (fields, rest)) : Value.checkEntryTexts room fields = .ok () := by
  cases fuel with
  | zero => contradiction
  | succ fuel =>
    unfold readFields at h
    split at h
    case h_2 => contradiction
    case h_1 =>
      obtain ⟨⟨name, tail⟩, -, h⟩ := Fault.exists_of_bind_eq_ok h
      dsimp only at h
      split at h
      case h_2 => contradiction
      case h_1 =>
        obtain ⟨⟨v, tail⟩, hread, h⟩ := Fault.exists_of_bind_eq_ok h
        have hput := checkEntryTexts_putField hbefore name (checkText_of_readValue fuel hread)
        dsimp only at h
        split at h
        case h_1 =>
          obtain ⟨rfl, -⟩ := Prod.mk.inj (Except.ok.inj h)
          exact hput
        case h_2 => exact checkEntryTexts_of_readFields fuel hput h
        case h_3 => contradiction

end

/-- **What is read can be written out**, and so can every part of it. -/
theorem checkText_of_read? {s : String} {v : Value} (h : read? s = .ok (some v)) :
    v.checkText Value.maxDepth = .ok () := by
  unfold read? at h
  split at h
  case h_1 w hread =>
    obtain rfl := Option.some.inj (Except.ok.inj h)
    unfold read readSource at hread
    obtain ⟨⟨u, rest⟩, hvalue, hread⟩ := Fault.exists_of_bind_eq_ok hread
    dsimp only at hread
    split at hread
    case isTrue =>
      obtain rfl := Except.ok.inj hread
      exact checkText_of_readValue _ hvalue
    case isFalse => contradiction
  case h_2 => contradiction
  case h_3 => exact nomatch Except.ok.inj h

end ODataBrowser.Json
