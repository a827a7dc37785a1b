import ODataBrowser.Text.Blank
import ODataBrowser.Text.Lowercase
import ODataBrowser.Text.Search
import ODataBrowser.Value.Conversion

/-!
# Counting

A service may give the total number of rows when asked by `$count=true`, by
`$inlinecount=allpages`, or not at all. A negotiator starts from one of these strategies and steps down
whenever the service rejects the parameter; it never steps up again before it is reset.
-/

namespace ODataBrowser

open Text

/-- A way to ask for the total number of rows. -/
inductive CountStrategy where
  | count
  | inlinecount
  | none
deriving DecidableEq, Repr

namespace CountStrategy

/-- All strategies, from the first to the last resort. -/
def all : List CountStrategy := [.count, .inlinecount, .none]

/-- The name of a strategy. -/
def name : CountStrategy → String
  | .count => "count"
  | .inlinecount => "inlinecount"
  | .none => "none"

/-- The strategy with exactly the given name. -/
def ofName? (s : String) : Option CountStrategy :=
  all.find? (·.name == s)

/-- Reads a strategy: its name in any case, with white space around it and dollar signs before it.
Where it is none, the default is taken if there is one. -/
def parse (v : Value) (default : Option CountStrategy) : Except Fault CountStrategy :=
  let key := (lowercase (strip (v.orElse (.text "")).display)).dropWhile (· == '$')
  match ofName? (String.ofList key), default with
  | some strategy, _ => .ok strategy
  | Option.none, some strategy => .ok strategy
  | Option.none, Option.none => .error (.unknownStrategy (String.ofList v.literal))

/-- The counting option of a strategy and its value. -/
def parameter? : CountStrategy → Option (String × String)
  | .count => some ("$count", "true")
  | .inlinecount => some ("$inlinecount", "allpages")
  | .none => Option.none

/-- The strategy to fall back to. -/
def next? : CountStrategy → Option CountStrategy
  | .count => some .inlinecount
  | .inlinecount => some .none
  | .none => Option.none

/-- The number of steps left before the last resort. -/
def stepsLeft : CountStrategy → Nat
  | .count => 2
  | .inlinecount => 1
  | .none => 0

/-- Whether a message rejects the counting option of the strategy. -/
def isRejectedBy (strategy : CountStrategy) (message : List Char) : Bool :=
  let words := lowercase message
  match strategy.parameter? with
  | some (option, _) => occurs option.toList words && occurs "not a valid".toList words
  | Option.none => false

/-- The strategy after a message, if the message makes it step down. -/
def afterMessage? (strategy : CountStrategy) (message : List Char) : Option CountStrategy :=
  if strategy.isRejectedBy message then strategy.next? else Option.none

theorem stepsLeft_of_next? {strategy next : CountStrategy} (h : strategy.next? = some next) :
    next.stepsLeft < strategy.stepsLeft := by
  cases strategy <;> simp_all [next?] <;> subst h <;> decide

theorem stepsLeft_of_afterMessage? {strategy next : CountStrategy} {message : List Char}
    (h : strategy.afterMessage? message = some next) : next.stepsLeft < strategy.stepsLeft := by
  unfold afterMessage? at h
  split at h
  · exact stepsLeft_of_next? h
  · contradiction

end CountStrategy

/-- The counting state of a resource. -/
structure Negotiator where
  /-- The strategy to start from and to return to. -/
  initial : CountStrategy
  /-- The strategy believed to work. -/
  strategy : CountStrategy
deriving DecidableEq, Repr

namespace Negotiator

/-- A fresh negotiator. -/
def start (initial : CountStrategy) : Negotiator := ⟨initial, initial⟩

/-- Takes note of an error message: the new state, and whether the strategy moved. -/
def onError (n : Negotiator) (message : List Char) : Negotiator × Bool :=
  match n.strategy.afterMessage? message with
  | some next => ({ n with strategy := next }, true)
  | none => (n, false)

/-- Takes note of a loosely typed message. One that says nothing is empty, and at the last resort none is
looked at. -/
def onValue (n : Negotiator) (message : Value) : Except Fault (Negotiator × Bool) :=
  if n.strategy = .none then .ok (n, false)
  else
    message.toTextOrEmpty.map fun s => n.onError s.toList

/-- Returns to the initial strategy. -/
def reset (n : Negotiator) : Negotiator := { n with strategy := n.initial }

end Negotiator

end ODataBrowser
