import Mathlib.Tactic.IntervalCases
import ODataBrowser.Text.Utf8

/-!
# Reading UTF-8 back

The bytes of a character are read as this character and leave the reader where it has begun none, whatever follows
them (`decodeBehind_utf8EncodeChar`). A text is therefore read back from its bytes (`decodeUtf8_utf8EncodeChar`).

After the first `k` bytes of a character the reader holds its number without the six lowest bits of each byte that is
missing. The first byte decides between which bounds the second lies: these exclude longer forms of smaller
characters and the surrogates, and so every character lies within them.
-/

namespace ODataBrowser.Text

/-- The byte that continues a character by the six lowest bits of a number. -/
def tailByte (n : Nat) : UInt8 :=
  UInt8.ofNat (n % 64 + 128)

theorem toNat_tailByte (n : Nat) : (tailByte n).toNat = n % 64 + 128 := by
  rw [tailByte, UInt8.toNat_ofNat_of_lt']
  have := Nat.mod_lt n (show 0 < 64 by decide)
  rw [UInt8.size]
  omega

theorem tailByte_mem (n : Nat) : 0x80 ≤ tailByte n ∧ tailByte n ≤ 0xBF := by
  rw [UInt8.le_iff_toNat_le, UInt8.le_iff_toNat_le, toNat_tailByte]
  have := Nat.mod_lt n (show 0 < 64 by decide)
  exact ⟨Nat.le_add_left _ _, show n % 64 + 128 ≤ 191 by omega⟩

/-! ## One byte -/

/-- A byte that continues a character adds its bits to what has begun. -/
theorem continueChar_tailByte {n missing : Nat} {low high : UInt8} (hlow : low ≤ tailByte n)
    (hhigh : tailByte n ≤ high) :
    continueChar ⟨n / 64, missing + 1, low, high⟩ (tailByte n) =
      if missing = 0 then ([Char.ofNat n], {}) else ([], ⟨n, missing, 0x80, 0xBF⟩) := by
  have hbits : n / 64 * 64 + ((tailByte n).toNat - 0x80) = n := by
    rw [toNat_tailByte]
    omega
  unfold continueChar
  dsimp only
  rw [if_neg (Nat.succ_ne_zero missing), if_pos (by simp [hlow, hhigh]), hbits]
  simp only [Nat.add_eq_right, Nat.add_sub_cancel]

theorem decodeBehind_last {n : Nat} {low high : UInt8} (hlow : low ≤ tailByte n) (hhigh : tailByte n ≤ high)
    (rest : List UInt8) :
    decodeBehind ⟨n / 64, 1, low, high⟩ (tailByte n :: rest) = Char.ofNat n :: decodeBehind {} rest := by
  rw [decodeBehind, continueChar_tailByte hlow hhigh]
  rfl

theorem decodeBehind_inner {n missing : Nat} {low high : UInt8} (hlow : low ≤ tailByte n)
    (hhigh : tailByte n ≤ high) (rest : List UInt8) :
    decodeBehind ⟨n / 64, missing + 2, low, high⟩ (tailByte n :: rest) =
      decodeBehind ⟨n, missing + 1, 0x80, 0xBF⟩ rest := by
  rw [decodeBehind, continueChar_tailByte hlow hhigh]
  rfl

theorem decodeBehind_first (b : UInt8) (rest : List UInt8) :
    decodeBehind {} (b :: rest) = (beginChar b).1 ++ decodeBehind (beginChar b).2 rest :=
  rfl

/-! ## The first byte of a character -/

theorem beginChar_of_two {v : Nat} (h : 0x80 ≤ v) (hv : v ≤ 0x7FF) :
    beginChar (UInt8.ofNat (v / 64 % 32 + 192)) = ([], ⟨v / 64, 1, 0x80, 0xBF⟩) := by
  rw [Nat.mod_eq_of_lt (by omega)]
  have hlow : 2 ≤ v / 64 := by omega
  have hhigh : v / 64 < 32 := by omega
  generalize v / 64 = lead at *
  interval_cases lead <;> rfl

/-- The second byte of three lies within the bounds of the first, since it continues no surrogate. -/
theorem beginChar_of_three {v : Nat} (h : 0x800 ≤ v) (hv : v ≤ 0xFFFF) (hvalid : v.isValidChar) :
    ∃ low high, beginChar (UInt8.ofNat (v / 4096 % 16 + 224)) = ([], ⟨v / 4096, 2, low, high⟩) ∧
      low ≤ tailByte (v / 64) ∧ tailByte (v / 64) ≤ high := by
  rw [Nat.mod_eq_of_lt (by omega)]
  simp only [UInt8.le_iff_toNat_le, toNat_tailByte]
  have hhigh : v / 4096 < 16 := by omega
  generalize hlead : v / 4096 = lead at *
  interval_cases lead
  all_goals
    refine ⟨_, _, rfl, ?_, ?_⟩
    all_goals
      simp only [UInt8.reduceToNat]
      omega

theorem beginChar_of_four {v : Nat} (h : 0x10000 ≤ v) (hvalid : v.isValidChar) :
    ∃ low high, beginChar (UInt8.ofNat (v / 262144 % 8 + 240)) = ([], ⟨v / 262144, 3, low, high⟩) ∧
      low ≤ tailByte (v / 4096) ∧ tailByte (v / 4096) ≤ high := by
  rw [Nat.mod_eq_of_lt (by omega)]
  simp only [UInt8.le_iff_toNat_le, toNat_tailByte]
  have hhigh : v / 262144 < 5 := by omega
  generalize hlead : v / 262144 = lead at *
  interval_cases lead
  all_goals
    refine ⟨_, _, rfl, ?_, ?_⟩
    all_goals
      simp only [UInt8.reduceToNat]
      omega

/-! ## Characters and texts -/

theorem decodeBehind_of_one {v : Nat} (hv : v ≤ 0x7F) (rest : List UInt8) :
    decodeBehind {} (UInt8.ofNat v :: rest) = Char.ofNat v :: decodeBehind {} rest := by
  have hnat : (UInt8.ofNat v).toNat = v := UInt8.toNat_ofNat_of_lt' (by rw [UInt8.size]; omega)
  have hlt : UInt8.ofNat v < 0x80 := by
    rw [UInt8.lt_iff_toNat_lt, hnat]
    exact Nat.lt_succ_of_le hv
  rw [decodeBehind_first, beginChar, if_pos hlt, hnat]
  rfl

theorem decodeBehind_of_two {v : Nat} (h : 0x80 ≤ v) (hv : v ≤ 0x7FF) (rest : List UInt8) :
    decodeBehind {} (UInt8.ofNat (v / 64 % 32 + 192) :: tailByte v :: rest) =
      Char.ofNat v :: decodeBehind {} rest := by
  rw [decodeBehind_first, beginChar_of_two h hv]
  exact decodeBehind_last (tailByte_mem v).1 (tailByte_mem v).2 rest

theorem decodeBehind_of_three {v : Nat} (h : 0x800 ≤ v) (hv : v ≤ 0xFFFF) (hvalid : v.isValidChar)
    (rest : List UInt8) :
    decodeBehind {} (UInt8.ofNat (v / 4096 % 16 + 224) :: tailByte (v / 64) :: tailByte v :: rest) =
      Char.ofNat v :: decodeBehind {} rest := by
  obtain ⟨low, high, hbegin, hlow, hhigh⟩ := beginChar_of_three h hv hvalid
  have hdiv : v / 4096 = v / 64 / 64 := by omega
  rw [decodeBehind_first, hbegin, List.nil_append, hdiv, decodeBehind_inner hlow hhigh]
  exact decodeBehind_last (tailByte_mem v).1 (tailByte_mem v).2 rest

theorem decodeBehind_of_four {v : Nat} (h : 0x10000 ≤ v) (hvalid : v.isValidChar) (rest : List UInt8) :
    decodeBehind {} (UInt8.ofNat (v / 262144 % 8 + 240) :: tailByte (v / 4096) :: tailByte (v / 64) ::
      tailByte v :: rest) = Char.ofNat v :: decodeBehind {} rest := by
  obtain ⟨low, high, hbegin, hlow, hhigh⟩ := beginChar_of_four h hvalid
  have hdiv : v / 262144 = v / 4096 / 64 := by omega
  have hdiv' : v / 4096 = v / 64 / 64 := by omega
  rw [decodeBehind_first, hbegin, List.nil_append, hdiv, decodeBehind_inner hlow hhigh, hdiv',
    decodeBehind_inner (tailByte_mem (v / 64)).1 (tailByte_mem (v / 64)).2]
  exact decodeBehind_last (tailByte_mem v).1 (tailByte_mem v).2 rest

/-- **The bytes of a character are read as this character.** -/
theorem decodeBehind_utf8EncodeChar (c : Char) (rest : List UInt8) :
    decodeBehind {} (String.utf8EncodeChar c ++ rest) = c :: decodeBehind {} rest := by
  have hvalid : c.toNat.isValidChar := c.valid
  suffices h : decodeBehind {} (String.utf8EncodeChar c ++ rest) = Char.ofNat c.toNat :: decodeBehind {} rest by
    rwa [c.ofNat_toNat] at h
  unfold String.utf8EncodeChar
  dsimp only
  split_ifs with hone htwo hthree
  · exact decodeBehind_of_one hone rest
  · exact decodeBehind_of_two (Nat.lt_of_not_le hone) htwo rest
  · exact decodeBehind_of_three (Nat.lt_of_not_le htwo) hthree hvalid rest
  · exact decodeBehind_of_four (Nat.lt_of_not_le hthree) hvalid rest

theorem decodeUtf8_utf8EncodeChar (cs : List Char) : decodeUtf8 (cs.flatMap String.utf8EncodeChar) = cs := by
  unfold decodeUtf8
  induction cs with
  | nil => rfl
  | cons c cs ih => rw [List.flatMap_cons, decodeBehind_utf8EncodeChar, ih]

end ODataBrowser.Text
