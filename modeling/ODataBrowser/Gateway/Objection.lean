import ODataBrowser.Value.Basic

/-!
# Objections to requests

An objection names an invalid part of a request and quotes the values that are to blame. Not every value has a form in
an answer: numbers that are not finite have none, nor have texts with lone surrogates.
-/

namespace ODataBrowser

namespace Scalar

/-- Whether an entry with this key is left out where its map is quoted: its name begins with `_sa`. -/
def isUnquotedKey : Scalar → Bool
  | .textual t => "_sa".toList.isPrefixOf t.shown
  | _ => false

/-- Whether the scalar can be quoted. -/
def isQuotable : Scalar → Bool
  | .textual t => t.isString
  | .float x => x.isFinite
  | _ => true

end Scalar

namespace Value

mutual

/-- Whether the value can be quoted. -/
def isQuotable : Value → Bool
  | .scalar s => s.isQuotable
  | .list items => areQuotable items
  | .map entries => areQuotableEntries entries

/-- Whether all items of a list can be quoted. -/
def areQuotable : List Value → Bool
  | [] => true
  | v :: rest => v.isQuotable && areQuotable rest

/-- Whether all entries of a map can be quoted, as far as they are. -/
def areQuotableEntries : List (Scalar × Value) → Bool
  | [] => true
  | (key, v) :: rest => (key.isUnquotedKey || key.isQuotable && v.isQuotable) && areQuotableEntries rest

end

end Value

/-- What is wrong with a part of a request. -/
structure Objection where
  /-- The name of the part. -/
  part : String
  /-- The values that are quoted. -/
  quoted : List Value := []

/-- Whether the objection can be sent, where some values can be quoted. -/
def Objection.isSendable (canQuote : Value → Bool) (o : Objection) : Bool :=
  o.quoted.all canQuote

end ODataBrowser
