import ODataBrowser.Gateway.Server

/-!
# The command line

Reads the settings of the server from the environment and announces it.
-/

namespace ODataBrowser

/-- The given variables, as far as they are set. -/
def readEnvironment (names : List String) : IO Environment :=
  names.filterMapM fun name => do
    return (← IO.getEnv name).map fun value => (name, value)

end ODataBrowser

open ODataBrowser in
/-- Announces the server, or ends with an error where its settings cannot be read. -/
def main : IO UInt32 := do
  match ServerSettings.ofEnvironment (← readEnvironment ServerSettings.variableNames) with
  | .ok settings =>
    IO.println settings.banner
    return 0
  | .error _ =>
    IO.eprintln "ODATA_PORT is not an integer"
    return 1
