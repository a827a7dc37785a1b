import ODataBrowser.Text.Digit
import ODataBrowser.Text.Search

/-!
# Hosts

A host is a name or an address. A text that looks like an address, four rows of digits or anything in brackets,
has to be one.
-/

namespace ODataBrowser.Host

open Text

/-! ### Addresses of four bytes -/

/-- The rows of digits of a text. -/
def digitRows : List Char → List (List Char)
  | [] => [[]]
  | c :: rest =>
    match digitRows rest with
    | [] => [[c]]
    | row :: rows => if c.isDigit then (c :: row) :: rows else [] :: row :: rows

/-- Whether the text looks like four rows of digits with one character between neighbours, which may be a digit
too. -/
def looksNumeric (cs : List Char) : Bool :=
  let rows := digitRows cs
  let spare := rows.foldl (fun n row => n + (row.length - 1) / 2) 0
  rows.all (!·.isEmpty) && rows.length ≤ 4 && 4 ≤ rows.length + spare

/-- Whether the text is the numeral of a byte. -/
def isByte (cs : List Char) : Bool :=
  !cs.isEmpty && cs.length ≤ 3 && cs.all Char.isDigit && (cs.head? != some '0' || cs.length == 1) &&
    cs.foldl (fun n c => 10 * n + (c.toNat - 48)) 0 < 256

/-- Whether the text is an address of four bytes. -/
def isShortAddress (cs : List Char) : Bool :=
  let parts := splitAtEach '.' cs
  parts.length == 4 && parts.all isByte

/-! ### Addresses of eight groups -/

/-- Whether the text is a group of an address: the hexadecimal numeral of a number of two bytes. -/
def isGroup (cs : List Char) : Bool :=
  !cs.isEmpty && cs.length ≤ 4 && cs.all fun c => (hexDigit? c).isSome

/-- The groups before or behind the omitted ones, none where an empty group stands among them. -/
def besideGap? (groups : List (List Char)) : Option (List (List Char)) :=
  if groups == [[]] then some [] else if groups.all isGroup then some groups else none

/-- Whether the parts between colons make up an address: eight groups, or fewer with one empty part for the
omitted ones. -/
def areGroups (parts : List (List Char)) : Bool :=
  let inner := (parts.drop 1).dropLast
  match inner.countP List.isEmpty with
  | 0 => parts.length == 8 && parts.all isGroup
  | 1 =>
    let gap := 1 + inner.findIdx List.isEmpty
    match besideGap? (parts.take gap), besideGap? (parts.drop (gap + 1)) with
    | some before, some behind => before.length + behind.length < 8
    | _, _ => false
  | _ => false

/-- The parts of an address between colons, in which an address of four bytes at the end is two groups. -/
def partsOf? (cs : List Char) : Option (List (List Char)) :=
  let parts := splitAtEach ':' cs
  let last := parts.getLast?.getD []
  if parts.length < 3 then none
  else if !last.contains '.' then some parts
  else if isShortAddress last then some (parts.dropLast ++ [['0'], ['0']])
  else none

/-- Whether the text is an address of eight groups, perhaps with the name of a zone. -/
def isLongAddress (cs : List Char) : Bool :=
  let (address, zone) := splitWhile (· != '%') cs
  zone != ['%'] && !zone.tail.contains '%' && (partsOf? address).any areGroups

/-! ### Hosts -/

/-- Whether the text is in brackets. -/
def isBracketed (cs : List Char) : Bool :=
  cs.head? == some '[' && cs.getLast? == some ']'

/-- Whether the text can be a host. -/
def isValid (cs : List Char) : Bool :=
  if looksNumeric cs then isShortAddress cs
  else !isBracketed cs || isLongAddress cs.tail.dropLast

example : (["10.0.0.1", "10.0.0.256", "1234567", "[::1]", "[1::2::3]", "[::ffff:1.2.3.4]", "h", ""].map
    fun s => isValid s.toList) = [true, false, false, true, false, true, true, true] := by decide

end ODataBrowser.Host
