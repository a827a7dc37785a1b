import ODataBrowser.Fault
import ODataBrowser.Text.Blank

/-!
# Response envelopes

A response may hold its rows in the array `value`, in `d.results`, as a bare array, as the single
entity `d`, or be a single row itself. The total number of rows stands in one of four fields, as a
number or as the text of one.
-/

namespace ODataBrowser.Envelope

/-- The items of a value that is a list. -/
def items? : Value → Option (List Value)
  | .list items => some items
  | _ => none

/-- The single entity of a response that has no field but `d`. -/
def soleEntity? : Value → Option (List Value)
  | .map [(.text "d", .map entity)] => some [.map entity]
  | _ => none

/-- A response that is a single row. -/
def singleRow? (payload : Value) : Option (List Value) :=
  if payload.isPresent then some [payload] else none

/-- The rows of a response: those of the first form of envelope that fits. -/
def rows (payload : Value) : List Value :=
  (items? (payload.field "value")
    <|> items? ((payload.field "d").field "results")
    <|> items? payload
    <|> soleEntity? payload
    <|> singleRow? payload).getD []

/-- The count that a field gives, if it is a finite number or the text of one. A fraction is dropped;
an integer beyond the range of doubles is a fault. -/
def count? : Value → Except Fault (Option Int)
  | .int n =>
    match Binary64.ofInt? n with
    | some _ => .ok (some n)
    | none => .error .outOfRange
  | .float x => .ok x.truncate?
  | .text s => .ok ((Numeral.readBinary64 (Text.strip s.toList)).bind Binary64.truncate?)
  | _ => .ok none

/-- The first count among the fields. -/
def firstCount : List Value → Except Fault (Option Int)
  | [] => .ok none
  | v :: rest => do
    match ← count? v with
    | some n => return some n
    | none => firstCount rest

/-- The fields in which a response may give the total. -/
def totalFields (payload : Value) : List Value :=
  [payload.field "@odata.count", payload.field "odata.count", payload.field "count",
    (payload.field "d").field "__count"]

/-- The total number of rows that a response gives. -/
def total (payload : Value) : Except Fault (Option Int) :=
  firstCount (totalFields payload)

end ODataBrowser.Envelope
