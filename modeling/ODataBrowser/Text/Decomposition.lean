import Std.Data.HashMap
import ODataBrowser.Text.DecompositionTable
import ODataBrowser.Text.Search

/-!
# Compatibility decomposition

The compatibility decomposition of a text: every character is replaced by its full decomposition,
and combining marks are then put into canonical order, that is, stably sorted by combining class
between characters of class zero. Hangul syllables are decomposed by arithmetic, all others by table.
-/

namespace ODataBrowser.Text

/-- The value of a hexadecimal digit; other characters count as zero. -/
def hexDigitValue (c : Char) : Nat :=
  if '0' ≤ c ∧ c ≤ '9' then c.toNat - 48
  else if 'A' ≤ c ∧ c ≤ 'F' then c.toNat - 55
  else if 'a' ≤ c ∧ c ≤ 'f' then c.toNat - 87
  else 0

/-- The number written by a row of hexadecimal digits. -/
def natOfHex (cs : List Char) : Nat :=
  cs.foldl (fun n c => 16 * n + hexDigitValue c) 0

/-- The entries of a table: first code point, number of code points, value. -/
def tableEntries (lines : List String) : List (Nat × Nat × List Nat) :=
  (lines.flatMap fun line => splitAtEach ';' line.toList).filterMap fun entry =>
    match splitAtEach '=' entry with
    | [key, value] =>
      let numbers := (splitAtEach ' ' value).map natOfHex
      match splitAtEach '+' key with
      | [first, count] => some (natOfHex first, natOfHex count, numbers)
      | [first] => some (natOfHex first, 1, numbers)
      | _ => none
    | _ => none

/-- The decompositions by code point. A run of code points has a run of decompositions. -/
def decompositions : Std.HashMap Nat (List Nat) :=
  (tableEntries decompositionLines).foldl (fun map (first, count, numbers) =>
    (List.range count).foldl (fun map i =>
      map.insert (first + i) (if count = 1 then numbers else numbers.map (· + i))) map) ∅

/-- The combining classes by code point. -/
def combiningClasses : Std.HashMap Nat Nat :=
  (tableEntries combiningClassLines).foldl (fun map (first, count, numbers) =>
    (List.range count).foldl (fun map i => map.insert (first + i) (numbers.headD 0)) map) ∅

/-- The canonical combining class, zero for characters that do not combine. -/
def combiningClass (c : Char) : Nat :=
  if c.toNat < 0x300 then 0 else combiningClasses.getD c.toNat 0

/-- The decomposition of the Hangul syllable with the given index into its two or three letters. -/
def decomposeHangul (index : Nat) : List Nat :=
  let pair := [0x1100 + index / 588, 0x1161 + index % 588 / 28]
  if index % 28 = 0 then pair else pair ++ [0x11A7 + index % 28]

/-- The full decomposition of a character. -/
def decomposeChar (c : Char) : List Char :=
  let n := c.toNat
  if n < 0xA0 then [c]
  else if 0xAC00 ≤ n ∧ n ≤ 0xD7A3 then (decomposeHangul (n - 0xAC00)).map Char.ofNat
  else
    match decompositions[n]? with
    | some numbers => numbers.map Char.ofNat
    | none => [c]

/-- Puts a mark behind the marks of lower or equal class, in a text whose marks are in order. -/
def insertMark (c : Char) : List Char → List Char
  | [] => [c]
  | d :: rest =>
    if combiningClass c ≠ 0 ∧ combiningClass d ≠ 0 ∧ combiningClass d < combiningClass c then
      d :: insertMark c rest
    else c :: d :: rest

/-- The text with its marks in canonical order. -/
def orderMarks (cs : List Char) : List Char :=
  cs.foldr insertMark []

/-- The compatibility decomposition of a text. -/
def decompose (cs : List Char) : List Char :=
  orderMarks (cs.flatMap decomposeChar)

end ODataBrowser.Text
