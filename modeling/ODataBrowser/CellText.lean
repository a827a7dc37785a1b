import ODataBrowser.Calendar.LegacyDate
import ODataBrowser.Json.Writer
import ODataBrowser.Value.Conversion

/-!
# The text of table cells

A cell shows nothing for null, compact JSON for lists and maps, an ISO 8601 timestamp for a legacy
date, and the text of the value for all else. A value whose text cannot be written out is a fault.
-/

namespace ODataBrowser

/-- The timestamp of a legacy date, none for other values and for instants outside the calendar. An
offset of a day or longer is a fault. -/
def readLegacyDate : Value → Except Fault (Option Timestamp)
  | .text s =>
    match LegacyDate.readParts s.toList with
    | none => .ok none
    | some parts => if parts.isOffsetTooLong then .error .unreadable else .ok parts.timestamp?
  | _ => .ok none

/-- The text that a cell shows. -/
def cellText : Value → Except Fault (List Char)
  | .null => .ok []
  | .bool b => .ok (if b then "true".toList else "false".toList)
  | .scalar s => do
    match ← readLegacyDate (.scalar s) with
    | some t => return t.isoText 'T'
    | none =>
      s.checkText
      return s.display
  | v => do
    v.checkText Value.maxDepth
    return (Json.write? v).getD v.literal

end ODataBrowser
