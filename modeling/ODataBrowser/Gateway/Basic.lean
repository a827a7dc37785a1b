import ODataBrowser.Access
import ODataBrowser.Gateway.Recent
import ODataBrowser.Pager.Load
import ODataBrowser.Service.Discovery
import ODataBrowser.Value.Order

/-!
# The state of a gateway

A gateway serves one service to many users. It shares one session among a pager per resource, of which it
keeps the most recently used, and remembers for a while which resources the service has.
-/

namespace ODataBrowser

/-- What a caller may say about a gateway. -/
structure GatewayArguments extends AccessArguments where
  apiKey : Value := .null
  maxPageSize : Value := .int 500
  /-- For how many seconds the resources are remembered; null leaves it to the environment. -/
  cacheLifetime : Value := .null
  maxPagers : Value := .int 128

/-- What the given settings say about a gateway. -/
def GatewayArguments.ofNamed (settings : NamedSettings) : Except Fault GatewayArguments := do
  settings.check (["api_key", "max_page_size", "meta_cache_ttl", "max_pagers"] ++
    AccessArguments.names "verify_tls")
  return {
    toAccessArguments := .ofNamed settings "verify_tls"
    apiKey := settings.getD "api_key" .null
    maxPageSize := settings.getD "max_page_size" (.int 500)
    cacheLifetime := settings.getD "meta_cache_ttl" .null
    maxPagers := settings.getD "max_pagers" (.int 128) }

/-- The resources that were discovered, and when the discovery began. -/
structure ResourceCache where
  /-- A number of seconds. -/
  time : Value
  resources : List Resource

/-- A gateway to a service. -/
structure Gateway where
  access : Access
  /-- The key that users must give. Where it says nothing, any will do. -/
  apiKey : Value
  /-- The largest page size that users get. -/
  maxPageSize : Value
  /-- For how many seconds the resources are remembered. -/
  cacheLifetime : Value
  /-- How many pagers are kept. -/
  maxPagers : Value
  /-- The environment, in which the session is opened. -/
  environment : Environment
  /-- The session, while it is open. -/
  opened : Option Session := none
  pagers : Recent Pager := []
  cache : Option ResourceCache := none

namespace Gateway

/-- For how many seconds the resources are remembered: as the caller says, or else as the environment does. -/
def lifetimeOf (env : Environment) : Value → Except Fault Value
  | .null => (Value.text (env.getD "ODATA_META_TTL" "900")).toInt.map .int
  | given => .ok given

/-- The gateway that the caller and the environment describe. -/
def ofArguments (env : Environment) (given : GatewayArguments) : Except Fault Gateway := do
  let access ← Access.resolve env given.toAccessArguments
  let cacheLifetime ← lifetimeOf env given.cacheLifetime
  return {
    access
    apiKey := env.valueOr given.apiKey "ODATA_API_KEY" ""
    maxPageSize := given.maxPageSize
    cacheLifetime
    maxPagers := given.maxPagers
    environment := env }

/-- Checks that the gateway has all settings that it needs. -/
def validate (g : Gateway) : Except Fault Unit :=
  if g.access.serviceUrl.isEmpty then .error (.incompleteGateway .serviceUrl)
  else if !g.access.hasCredentials then .error (.incompleteGateway .credentials)
  else if !g.apiKey.isPresent then .error (.incompleteGateway .apiKey)
  else .ok ()

/-- The settings of the session. -/
def settings (g : Gateway) : Except Fault Settings := do
  let timeout ← (Value.text (g.environment.getD "ODATA_TIMEOUT" "60")).toBinary64
  let retries ← (Value.text (g.environment.getD "ODATA_RETRIES" "3")).toInt
  let backoff ← (Value.text (g.environment.getD "ODATA_BACKOFF" "0.5")).toBinary64
  return { g.access.settings with
    timeout := .float timeout
    retries := .int retries
    backoff := .float backoff }

/-- The session of the gateway: the one that is open, or a new one. -/
def session (g : Gateway) : Except Fault Session :=
  match g.opened with
  | some s => .ok s
  | none => g.settings.bind Session.start

/-- The gateway after its session was needed. -/
def afterUse (g : Gateway) : Gateway :=
  { g with opened := g.session.toOption }

/-- Closes the session, and forgets the pagers and the resources. -/
def close (g : Gateway) : Gateway :=
  { g with opened := none, pagers := [], cache := none }

/-! ### Pagers -/

/-- The pager of a resource, with the session for it. -/
structure Obtained where
  session : Session
  pager : Pager
  /-- Whether the pager was there. -/
  reused : Bool

/-- Keeps a new pager as the most recently used one, and drops the least recently used ones beyond the
number that is kept. -/
def adopt (g : Gateway) (resource : Scalar) (pager : Pager) : Except Fault Unit × Gateway :=
  let (result, pagers) := (g.pagers.touch resource pager).trim fun count => g.maxPagers.less (.int count)
  (result, { g with pagers })

/-- The pager of a resource: the one that is kept, or a new one. It becomes the most recently used one. -/
def pagerUnder (g : Gateway) (resource : Scalar) : Except Fault Obtained × Gateway :=
  match g.session with
  | .error fault => (.error fault, g)
  | .ok session =>
    let g := g.afterUse
    match g.pagers.find? resource with
    | some (key, pager) => (.ok ⟨session, pager, true⟩, { g with pagers := g.pagers.touch key pager })
    | none =>
      match Pager.ofArguments (.int g.access.pageSize) g.access.countStrategy with
      | .error fault => (.error fault, g)
      | .ok pager =>
        let (kept, g) := g.adopt resource pager
        (kept.map fun _ => ⟨session, pager, false⟩, g)

/-- The pager of the resource of the given name. -/
def pager (g : Gateway) (resource : String) : Except Fault Obtained × Gateway :=
  g.pagerUnder (.text resource)

/-- The pager of a resource that may be no text. The session is needed even if the value can be no key. -/
def pagerOf (g : Gateway) (resource : Value) : Except Fault Obtained × Gateway :=
  match resource.toKey with
  | .ok key => g.pagerUnder key
  | .error fault => (g.session.bind fun _ => .error fault, g.afterUse)

/-- Notes the new state of a pager, if it is kept. -/
def store (g : Gateway) (resource : String) (pager : Pager) : Gateway :=
  { g with pagers := g.pagers.update (.text resource) pager }

/-! ### Resources -/

/-- The resources that are remembered, if they are fresh enough at the given time. -/
def remembered? (g : Gateway) (now : Value) : Except Fault (Option (List Resource)) :=
  match g.cache with
  | none => .ok none
  | some cache => do
    let age ← now.difference cache.time
    return if ← age.less g.cacheLifetime then some cache.resources else none

/-- Remembers the resources that a discovery found, if it found any. -/
def remember (g : Gateway) (now : Value) (found : Except Fault (List Resource)) : Gateway :=
  match found with
  | .ok resources => { g with cache := some ⟨now, resources⟩ }
  | .error _ => g

/-- Discovers the resources of the service at the given time. -/
def discover (g : Gateway) (now : Value) (outcomes : List Outcome) : Exchange (List Resource) × Gateway :=
  match g.session with
  | .error fault => (⟨.error fault, [], outcomes⟩, g)
  | .ok session =>
    let found := session.discover outcomes
    (found, g.afterUse.remember now found.result)

/-- The resources of the service at the given time, and whether they were remembered. -/
def resources (g : Gateway) (now : Value) (outcomes : List Outcome) :
    Exchange (List Resource × Bool) × Gateway :=
  match g.remembered? now with
  | .error fault => (⟨.error fault, [], outcomes⟩, g)
  | .ok (some resources) => (⟨.ok (resources, true), [], outcomes⟩, g)
  | .ok none =>
    let (found, after) := g.discover now outcomes
    (⟨found.result.map (·, false), found.sent, found.pending⟩, after)

end Gateway

end ODataBrowser
