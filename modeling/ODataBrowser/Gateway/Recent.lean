import ODataBrowser.Value.Equality

/-!
# Recently used entries

A list of entries under keys, the least recently used first, from which entries are dropped where it grows too
long. Keys that mean the same are one key, in the form in which it came first.
-/

namespace ODataBrowser

/-- Entries under keys, the least recently used first. -/
abbrev Recent (α : Type) := List (Scalar × α)

namespace Recent

variable {α : Type}

/-- The keys of the entries, the least recently used first. -/
def keys (r : Recent α) : List Scalar :=
  r.map (·.1)

/-- The entry under the given key, with the key as it came first. -/
def find? (r : Recent α) (key : Scalar) : Option (Scalar × α) :=
  List.find? (·.1.same key) r

/-- The other entries. -/
def without (r : Recent α) (key : Scalar) : Recent α :=
  r.filter (!·.1.same key)

/-- Makes an entry the most recently used one. -/
def touch (r : Recent α) (key : Scalar) (entry : α) : Recent α :=
  r.without key ++ [(key, entry)]

/-- Drops the least recently used entry as long as there are too many. It is a fault where even none are too
many, and where it cannot be told. -/
def trim (isTooMany : Nat → Except Fault Bool) : Recent α → Except Fault Unit × Recent α
  | [] => ((isTooMany 0).bind fun tooMany => if tooMany then .error .noSuchKey else .ok (), [])
  | entry :: rest =>
    match isTooMany (rest.length + 1) with
    | .ok true => trim isTooMany rest
    | .ok false => (.ok (), entry :: rest)
    | .error fault => (.error fault, entry :: rest)

/-- Changes an entry if it is there, in its place. -/
def update (r : Recent α) (key : Scalar) (entry : α) : Recent α :=
  r.map fun old => if old.1.same key then (old.1, entry) else old

end Recent

end ODataBrowser
