/-!
# Code units

Texts in UTF-16 and UTF-32 are sequences of code units, numbers of two and of four bytes. A character of UTF-16
beyond the first 65536 takes a pair of units, a high surrogate and a low one.
-/

namespace ODataBrowser.Text

/-- The number that the bytes of a code unit are. -/
def unitOf (bigEndian : Bool) (bytes : List UInt8) : Nat :=
  (if bigEndian then bytes else bytes.reverse).foldl (fun n b => n * 256 + b.toNat) 0

/-- The numbers that pairs of bytes are, none where a byte is left. -/
def units16? (bigEndian : Bool) : List UInt8 → Option (List Nat)
  | [] => some []
  | [_] => none
  | a :: b :: rest => (units16? bigEndian rest).map (unitOf bigEndian [a, b] :: ·)

/-- The numbers that groups of four bytes are, none where some bytes are left. -/
def units32? (bigEndian : Bool) : List UInt8 → Option (List Nat)
  | [] => some []
  | a :: b :: c :: d :: rest => (units32? bigEndian rest).map (unitOf bigEndian [a, b, c, d] :: ·)
  | _ => none

/-- Whether the code unit starts a pair. -/
def isHighSurrogate (n : Nat) : Bool := 0xD800 ≤ n && n ≤ 0xDBFF

/-- Whether the code unit ends a pair. -/
def isLowSurrogate (n : Nat) : Bool := 0xDC00 ≤ n && n ≤ 0xDFFF

/-- The character of a pair, of which only the lowest ten bits of each unit matter. -/
def charOfPair (high low : Nat) : Char :=
  Char.ofNat (0x10000 + high % 1024 * 1024 + low % 1024)

example : charOfPair 0xD83D 0xDE00 = '😀' := by decide

end ODataBrowser.Text
