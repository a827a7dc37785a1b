import ODataBrowser.Resource.Basic
import ODataBrowser.Text.Lowercase
import ODataBrowser.Text.Search
import ODataBrowser.Value.Conversion

/-!
# Searching resources

A search term matches a resource if its name, kind or location contains the term, in any case. A blank
term matches every resource.
-/

namespace ODataBrowser

open Text

/-- Whether the text contains the word, which is in lower case, in any case. -/
def containsWord (word t : JsonText) : Bool :=
  occurs word.points (t.mapRuns lowercase).points

/-- Whether a resource contains the word, which is in lower case. -/
def Resource.contains (r : Resource) (word : JsonText) : Bool :=
  containsWord word r.name || containsWord word (.string r.kind.name) || containsWord word r.url

/-- The resources that a term matches, in their order. -/
def searchResources (resources : List Resource) (term : JsonText) : List Resource :=
  let word := term.strip.mapRuns lowercase
  if word.isEmpty then resources else resources.filter (·.contains word)

/-- The resources that a loosely typed term matches. -/
def searchByValue (resources : List Resource) (term : Value) : Except Fault (List Resource) :=
  match term.orElse (.text "") with
  | .textual t => .ok (searchResources resources t)
  | _ => .error .notText

end ODataBrowser
