import ODataBrowser.Service.Session

/-!
# Access to a service

A connection or a gateway is told by its caller, or else by the environment, which service to use and how
to prove who asks. What the caller says wins, setting by setting; a setting that says nothing counts as
not given.
-/

namespace ODataBrowser

open Text

/-- The variables of the environment. -/
abbrev Environment := List (String × String)

namespace Environment

/-- The value of a variable, the default where it is not set. -/
def getD (env : Environment) (name default : String) : String :=
  (env.lookup name).getD default

/-- The value given, or the value of a variable where that says nothing. -/
def valueOr (env : Environment) (given : Value) (name default : String) : Value :=
  given.orElse (.text (env.getD name default))

end Environment

/-- What a caller may say about the access to a service. -/
structure AccessArguments where
  serviceUrl : Value := .null
  user : Value := .null
  password : Value := .null
  bearerToken : Value := .null
  /-- Whether the service is verified; null leaves it to the environment. -/
  verify : Value := .null
  pageSize : Value := .null
  countStrategy : Value := .null

/-- Settings by their names, as a caller gives them. -/
abbrev NamedSettings := List (String × Value)

namespace NamedSettings

/-- The value of a setting, the default where it is not given. -/
def getD (settings : NamedSettings) (name : String) (default : Value) : Value :=
  (settings.lookup name).getD default

/-- Whether every setting has one of the given names; another name is a fault. -/
def check (settings : NamedSettings) (names : List String) : Except Fault Unit :=
  if settings.all fun setting => names.contains setting.1 then .ok () else .error .wrongKind

end NamedSettings

/-- The names of the settings about the access, where `verify` is that of the setting whether the service is
verified. -/
def AccessArguments.names (verify : String) : List String :=
  ["service_url", "user", "password", "bearer_token", verify, "page_size", "count_strategy"]

/-- What the given settings say about the access. -/
def AccessArguments.ofNamed (settings : NamedSettings) (verify : String) : AccessArguments where
  serviceUrl := settings.getD "service_url" .null
  user := settings.getD "user" .null
  password := settings.getD "password" .null
  bearerToken := settings.getD "bearer_token" .null
  verify := settings.getD verify .null
  pageSize := settings.getD "page_size" .null
  countStrategy := settings.getD "count_strategy" .null

/-- The access to a service. -/
structure Access where
  serviceUrl : String
  user : Value
  password : Value
  bearerToken : Value
  verify : Value
  pageSize : Int
  countStrategy : Value

namespace Access

/-- Whether the service is verified: as the caller says, else unless the environment says `false`. -/
def verifyOf (env : Environment) : Value → Value
  | .null => .bool (lowercase (env.getD "ODATA_VERIFY_TLS" "true").toList != "false".toList)
  | given => given

/-- The access that the caller and the environment describe. -/
def resolve (env : Environment) (given : AccessArguments) : Except Fault Access := do
  let serviceUrl ← cleanAddress (env.valueOr given.serviceUrl "ODATA_SERVICE_URL" "")
  let pageSize ← (env.valueOr given.pageSize "ODATA_PAGE_SIZE" "25").toInt
  return {
    serviceUrl
    user := env.valueOr given.user "ODATA_USER" ""
    password := env.valueOr given.password "ODATA_PASS" ""
    bearerToken := env.valueOr given.bearerToken "ODATA_BEARER_TOKEN" ""
    verify := verifyOf env given.verify
    pageSize
    countStrategy := env.valueOr given.countStrategy "ODATA_COUNT_STRATEGY" "inlinecount" }

/-- Whether the access has a token or a full login. -/
def hasCredentials (a : Access) : Bool :=
  a.bearerToken.isPresent || (a.user.isPresent && a.password.isPresent)

/-- How to prove who asks: by the token if there is one. -/
def authentication (a : Access) : Authentication :=
  if a.bearerToken.isPresent then .bearer a.bearerToken else .basic a.user a.password

/-- The settings of a session with this access. -/
def settings (a : Access) : Settings where
  serviceUrl := .text a.serviceUrl
  authentication := a.authentication
  verify := a.verify
  pageSize := .int a.pageSize
  countStrategy := a.countStrategy

end Access

end ODataBrowser
