import ODataBrowser.Fault
import ODataBrowser.Resource.Basic
import ODataBrowser.Text.Decomposition
import ODataBrowser.Text.Folding

/-!
# The order of resources

Resources are ordered by the base form of their names, which has neither case nor accents. Names with
the same base form are ordered by their code points, and resources of one name stay as they were.
-/

namespace ODataBrowser

open Text

/-- The base form of a name: its decomposition without combining marks, with its case folded. -/
def baseForm (name : JsonText) : JsonText :=
  name.mapRuns fun cs => fold ((decompose cs).filter (combiningClass · == 0))

/-- Whether a name comes before another or is the same, where `base` tells the base form. -/
def nameLE (base : JsonText → JsonText) (a b : JsonText) : Bool :=
  (base a).codes < (base b).codes || (base a == base b && !(b.codes < a.codes : Bool))

/-- The resources in order, where `base` tells the base form of a name. -/
def sortByName (base : JsonText → JsonText) (resources : List Resource) : List Resource :=
  resources.mergeSort fun a b => nameLE base a.name b.name

/-- The resources in order. -/
def sortResources (resources : List Resource) : List Resource :=
  sortByName baseForm resources

/-- The base form of a loosely typed name. -/
def baseFormOf : Value → Except Fault JsonText
  | .textual name => .ok (baseForm name)
  | _ => .error .wrongKind

end ODataBrowser
