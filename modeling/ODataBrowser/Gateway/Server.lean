import ODataBrowser.Access

/-!
# The server of a gateway

Where and how the gateway is served is told by the environment.
-/

namespace ODataBrowser

/-- How the gateway is served. -/
structure ServerSettings where
  host : String
  tcpPort : Int
  /-- Whether the server starts again when the program changes. -/
  reload : Bool
  logLevel : String
deriving DecidableEq, Repr

namespace ServerSettings

/-- The settings that the environment describes. -/
def ofEnvironment (env : Environment) : Except Fault ServerSettings := do
  let tcpPort ← (Value.text (env.getD "ODATA_PORT" "5050")).toInt
  return {
    host := env.getD "ODATA_HOST" "0.0.0.0"
    tcpPort
    reload := Text.lowercase (env.getD "ODATA_RELOAD" "false").toList == "true".toList
    logLevel := env.getD "ODATA_LOG_LEVEL" "info" }

/-- The names of the variables that describe the settings. -/
def variableNames : List String :=
  ["ODATA_HOST", "ODATA_PORT", "ODATA_RELOAD", "ODATA_LOG_LEVEL"]

/-- The line that announces the server. -/
def banner (s : ServerSettings) : String :=
  "Starting OData Explorer Gateway on " ++ s.host ++ ":" ++ String.ofList (Numeral.ofInt s.tcpPort)

end ServerSettings

end ODataBrowser
