import ODataBrowser.Proofs.Text.Utf8
import ODataBrowser.Query.Component
import ODataBrowser.Text.Blank

/-!
# Components of URLs read back

A text is read back from the component that is written for it (`decodeComponent_encodeComponent`): its characters come
back as their UTF-8 bytes, each from itself or from the escapes of the bytes. The component has no other characters
than those that stand for themselves and percent signs (`isComponentChar_of_mem`).
-/

namespace ODataBrowser.Query

/-! ## Hexadecimal digits -/

theorem hexDigit?_upperHexDigit : ∀ n < 16, Text.hexDigit? (upperHexDigit n) = some n := by
  decide

theorem isComponentChar_upperHexDigit : ∀ n < 16, isComponentChar (upperHexDigit n) = true := by
  decide

theorem div_lt_sixteen (b : UInt8) : b.toNat / 16 < 16 := by
  have := b.toNat_lt
  omega

theorem mod_lt_sixteen (b : UInt8) : b.toNat % 16 < 16 :=
  Nat.mod_lt _ (by decide)

/-! ## Decoding -/

/-- The byte of an escape is read back. -/
theorem escape?_percentByte (b : UInt8) (rest : List Char) : escape? (percentByte b ++ rest) = some (b, rest) := by
  have hbyte : UInt8.ofNat (16 * (b.toNat / 16) + b.toNat % 16) = b := by
    rw [Nat.div_add_mod, UInt8.ofNat_toNat]
  simp only [percentByte, List.cons_append, List.nil_append, escape?, hexDigit?_upperHexDigit _ (div_lt_sixteen b),
    hexDigit?_upperHexDigit _ (mod_lt_sixteen b), Option.bind_eq_bind, Option.bind_some, hbyte]
  rfl

theorem decodedBytes_percentByte (b : UInt8) (rest : List Char) :
    decodedBytes (percentByte b ++ rest) = b :: decodedBytes rest := by
  have hescape := escape?_percentByte b rest
  simp only [percentByte, List.cons_append, List.nil_append] at hescape ⊢
  rw [decodedBytes, hescape]

theorem decodedBytes_percentBytes (bytes : List UInt8) (rest : List Char) :
    decodedBytes (bytes.flatMap percentByte ++ rest) = bytes ++ decodedBytes rest := by
  induction bytes with
  | nil => rfl
  | cons b bytes ih => rw [List.flatMap_cons, List.append_assoc, decodedBytes_percentByte, ih, List.cons_append]

/-- A character other than the percent sign stands for itself. -/
theorem decodedBytes_cons {c : Char} (h : c ≠ '%') (rest : List Char) :
    decodedBytes (c :: rest) = String.utf8EncodeChar c ++ decodedBytes rest := by
  match rest with
  | [] => exact (List.append_nil _).symm
  | [_] => rfl
  | a :: b :: rest =>
    have hescape : escape? (c :: a :: b :: rest) = none := by
      unfold escape?
      split
      · rename_i heq
        exact absurd (List.cons.inj heq).1 h
      · rfl
    rw [decodedBytes, hescape]

theorem ne_percent_of_isComponentChar {c : Char} (h : isComponentChar c = true) : c ≠ '%' := by
  rintro rfl
  exact absurd h (by decide)

theorem decodedBytes_percentChar (c : Char) (rest : List Char) :
    decodedBytes (percentChar c ++ rest) = String.utf8EncodeChar c ++ decodedBytes rest := by
  unfold percentChar
  split
  · exact decodedBytes_cons (ne_percent_of_isComponentChar ‹_›) rest
  · exact decodedBytes_percentBytes _ rest

theorem decodedBytes_encodeComponent (cs : List Char) :
    decodedBytes (encodeComponent cs) = cs.flatMap String.utf8EncodeChar := by
  unfold encodeComponent
  induction cs with
  | nil => rfl
  | cons c cs ih => rw [List.flatMap_cons, List.flatMap_cons, decodedBytes_percentChar, ih]

/-- **A text is read back from its component.** -/
theorem decodeComponent_encodeComponent (cs : List Char) : decodeComponent (encodeComponent cs) = cs := by
  rw [decodeComponent, decodedBytes_encodeComponent, Text.decodeUtf8_utf8EncodeChar]

/-- A text of characters that stand for themselves is its own component. -/
theorem encodeComponent_of_isComponentChar {cs : List Char} (h : ∀ c ∈ cs, isComponentChar c = true) :
    encodeComponent cs = cs := by
  unfold encodeComponent
  induction cs with
  | nil => rfl
  | cons c cs ih =>
    obtain ⟨hc, hcs⟩ := List.forall_mem_cons.1 h
    rw [List.flatMap_cons, percentChar, if_pos hc, ih hcs, List.singleton_append]

theorem decodeComponent_of_isComponentChar {cs : List Char} (h : ∀ c ∈ cs, isComponentChar c = true) :
    decodeComponent cs = cs := by
  have hdecode := decodeComponent_encodeComponent cs
  rwa [encodeComponent_of_isComponentChar h] at hdecode

/-! ## The characters of a component -/

/-- A component consists of characters that stand for themselves and percent signs. -/
theorem isComponentChar_of_mem {cs : List Char} {c : Char} (h : c ∈ encodeComponent cs) :
    isComponentChar c = true ∨ c = '%' := by
  obtain ⟨d, -, hc⟩ := List.mem_flatMap.1 h
  unfold percentChar at hc
  split at hc
  · rename_i hself
    rw [List.mem_singleton.1 hc]
    exact .inl hself
  · obtain ⟨b, -, hb⟩ := List.mem_flatMap.1 hc
    simp only [percentByte, List.mem_cons, List.not_mem_nil, or_false] at hb
    rcases hb with rfl | rfl | rfl
    · exact .inr rfl
    · exact .inl (isComponentChar_upperHexDigit _ (div_lt_sixteen b))
    · exact .inl (isComponentChar_upperHexDigit _ (mod_lt_sixteen b))

/-- Whether the character can stand in a query that is written here: in a component or between components. -/
def isQueryChar (c : Char) : Bool :=
  isComponentChar c || "%$&=".toList.contains c

theorem toNat_lt_of_isAlphanum {c : Char} (h : c.isAlphanum = true) : c.toNat < 128 := by
  have hranges : c.isAlphanum = ((decide ('A'.val ≤ c.val ∧ c.val ≤ 'Z'.val) ||
      decide ('a'.val ≤ c.val) && decide (c.val ≤ 'z'.val)) ||
      decide ('0'.val ≤ c.val) && decide (c.val ≤ '9'.val)) := rfl
  have hlast : 'Z'.val.toNat = 90 ∧ 'z'.val.toNat = 122 ∧ '9'.val.toNat = 57 := by decide
  simp only [hranges, Bool.or_eq_true, Bool.and_eq_true, decide_eq_true_eq, UInt32.le_iff_toNat_le] at h
  rw [Char.toNat]
  omega

theorem toNat_lt_of_isQueryChar {c : Char} (h : isQueryChar c = true) : c.toNat < 128 := by
  have hmarks : ("-_.!~*'()".toList ++ "%$&=".toList).all (fun d => d.toNat < 128) = true := by decide
  rw [isQueryChar, isComponentChar, Bool.or_eq_true, Bool.or_eq_true, List.contains_iff_mem,
    List.contains_iff_mem] at h
  rcases h with (h | h) | h
  · exact toNat_lt_of_isAlphanum h
  · exact of_decide_eq_true (List.all_eq_true.1 hmarks c (List.mem_append_left _ h))
  · exact of_decide_eq_true (List.all_eq_true.1 hmarks c (List.mem_append_right _ h))

/-- No character of a query is white space, or has a meaning elsewhere in a URL. -/
theorem not_isBlank_of_isQueryChar {c : Char} (h : isQueryChar c = true) :
    Text.isBlank c = false ∧ c ∉ ['#', '+', '"'] := by
  have hall : ∀ n < 128, isQueryChar (Char.ofNat n) = true →
      Text.isBlank (Char.ofNat n) = false ∧ Char.ofNat n ∉ ['#', '+', '"'] := by
    decide
  have hchar := hall c.toNat (toNat_lt_of_isQueryChar h)
  rw [c.ofNat_toNat] at hchar
  exact hchar h

end ODataBrowser.Query
