import ODataBrowser.Access
import ODataBrowser.Pager.Load
import ODataBrowser.Service.Discovery

/-!
# Connections

A connection belongs to one service. It opens its session when it is first needed, and hands out discovery
and pagers.
-/

namespace ODataBrowser

/-- What a caller may say about a connection. -/
structure ConnectionArguments extends AccessArguments where
  /-- The time limit of a request in seconds. -/
  timeout : Value := .float (.ofDecimal false 60 0)

/-- What the given settings say about a connection. -/
def ConnectionArguments.ofNamed (settings : NamedSettings) : Except Fault ConnectionArguments := do
  settings.check ("timeout" :: AccessArguments.names "verify")
  return {
    toAccessArguments := .ofNamed settings "verify"
    timeout := settings.getD "timeout" (.float (.ofDecimal false 60 0)) }

/-- A connection to a service. -/
structure Connection where
  access : Access
  timeout : Value
  /-- The session, while it is open. -/
  opened : Option Session := none

namespace Connection

/-- The connection that the caller and the environment describe. -/
def ofArguments (env : Environment) (given : ConnectionArguments) : Except Fault Connection := do
  let access ← Access.resolve env given.toAccessArguments
  if access.serviceUrl.isEmpty then throw .noServiceUrl
  if !access.hasCredentials then throw .noCredentials
  return { access, timeout := given.timeout }

/-- The settings of the session. -/
def settings (c : Connection) : Settings :=
  { c.access.settings with timeout := c.timeout }

/-- The session of the connection: the one that is open, or a new one. -/
def session (c : Connection) : Except Fault Session :=
  match c.opened with
  | some s => .ok s
  | none => Session.start c.settings

/-- The connection after its session was needed. -/
def afterUse (c : Connection) : Connection :=
  { c with opened := c.session.toOption }

/-- Closes the session. -/
def close (c : Connection) : Connection :=
  { c with opened := none }

/-- Discovers the resources of the service. -/
def discover (c : Connection) (outcomes : List Outcome) : Exchange (List Resource) :=
  match c.session with
  | .ok s => s.discover outcomes
  | .error fault => ⟨.error fault, [], outcomes⟩

/-- A session with a new pager for it. -/
def browse (c : Connection) : Except Fault (Session × Pager) := do
  let session ← c.session
  let pager ← Pager.ofArguments session.settings.pageSize session.settings.countStrategy
  return (session, pager)

end Connection

end ODataBrowser
