/-!
# Reading UTF-8

Bytes that come from outside need not be UTF-8. `decodeUtf8` reads them all the same: bytes that begin a
character but do not end it are replaced together, and a byte that begins none is replaced alone.
-/

namespace ODataBrowser.Text

/-- The replacement for bytes that are no character. -/
def replacement : Char := '\uFFFD'

/-- A character that has begun: the number in it so far, how many bytes are missing, and between which bounds
the next one lies. -/
structure Begun where
  bits : Nat := 0
  missing : Nat := 0
  low : UInt8 := 0x80
  high : UInt8 := 0xBF

/-- Reads the first byte of a character: the character if it is complete, and what has begun. -/
def beginChar (b : UInt8) : List Char × Begun :=
  if b < 0x80 then ([Char.ofNat b.toNat], {})
  else if b < 0xC2 then ([replacement], {})
  else if b < 0xE0 then ([], ⟨b.toNat - 0xC0, 1, 0x80, 0xBF⟩)
  else if b = 0xE0 then ([], ⟨0, 2, 0xA0, 0xBF⟩)
  else if b = 0xED then ([], ⟨0xD, 2, 0x80, 0x9F⟩)
  else if b < 0xF0 then ([], ⟨b.toNat - 0xE0, 2, 0x80, 0xBF⟩)
  else if b = 0xF0 then ([], ⟨0, 3, 0x90, 0xBF⟩)
  else if b < 0xF4 then ([], ⟨b.toNat - 0xF0, 3, 0x80, 0xBF⟩)
  else if b = 0xF4 then ([], ⟨4, 3, 0x80, 0x8F⟩)
  else ([replacement], {})

/-- Reads a byte behind what has begun. -/
def continueChar (begun : Begun) (b : UInt8) : List Char × Begun :=
  if begun.missing = 0 then beginChar b
  else if begun.low ≤ b && b ≤ begun.high then
    let bits := begun.bits * 64 + (b.toNat - 0x80)
    if begun.missing = 1 then ([Char.ofNat bits], {}) else ([], ⟨bits, begun.missing - 1, 0x80, 0xBF⟩)
  else
    let (cs, next) := beginChar b
    (replacement :: cs, next)

/-- The text that bytes stand for behind what has begun. -/
def decodeBehind (begun : Begun) : List UInt8 → List Char
  | [] => if begun.missing = 0 then [] else [replacement]
  | b :: rest =>
    let (cs, next) := continueChar begun b
    cs ++ decodeBehind next rest

/-- The text that bytes stand for. -/
def decodeUtf8 (bytes : List UInt8) : List Char :=
  decodeBehind {} bytes

example : decodeUtf8 [0x61, 0xE2, 0x82, 0xF0, 0x9F, 0x98, 0x80, 0xED, 0xA0] =
    ['a', '\uFFFD', '😀', '\uFFFD', '\uFFFD'] := by decide

end ODataBrowser.Text
