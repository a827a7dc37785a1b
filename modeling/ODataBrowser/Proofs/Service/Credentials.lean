import ODataBrowser.Connection
import ODataBrowser.Gateway.Basic

/-!
# Who a session says is asking

The requests of a session prove who asks as the settings of the session say (`Session.proves_of_start`). The settings of
a connection or a gateway come from its caller and from the environment: what the caller gives wins for each of token,
user and password, and only then does a token win over a login (`identity`). So a token that the caller gives is the one
that is sent, but a login that the caller gives is not used where the environment has a token
(`session_proves_identity`).
-/

namespace ODataBrowser

/-! ## Header fields -/

namespace Headers

theorem get?_cons (field : String × Value) (headers : Headers) (name : String) :
    get? (field :: headers) name = if key field.1 = key name then some field.2 else headers.get? name := by
  unfold get?
  rw [List.find?_cons]
  by_cases h : key field.1 = key name
  · rw [if_pos h, beq_iff_eq.2 h]
    rfl
  · rw [if_neg h, beq_eq_false_iff_ne.2 h]

theorem get?_of_forall_ne {headers : Headers} {name : String} (h : ∀ field ∈ headers, key field.1 ≠ key name) :
    headers.get? name = none := by
  induction headers with
  | nil => rfl
  | cons field rest ih =>
    rw [List.forall_mem_cons] at h
    rw [get?_cons, if_neg h.1, ih h.2]

/-- Setting a field leaves those of other names as they are. -/
theorem get?_put_of_ne {name other : String} (h : key name ≠ key other) (headers : Headers) (value : Value) :
    (headers.put name value).get? other = headers.get? other := by
  unfold put
  split
  case isTrue =>
    rename_i hany
    clear hany
    induction headers with
    | nil => rfl
    | cons field rest ih =>
      rw [List.map_cons, get?_cons, get?_cons, ih]
      split
      case isTrue heq => rw [beq_iff_eq.1 heq, if_neg h]
      case isFalse => rfl
  case isFalse =>
    rename_i hany
    clear hany
    induction headers with
    | nil => rw [List.nil_append, get?_cons, if_neg h]
    | cons field rest ih => rw [List.cons_append, get?_cons, get?_cons, ih]

theorem get?_putAll_of_forall_ne {other : String} {new : Headers} (h : ∀ field ∈ new, key field.1 ≠ key other)
    (headers : Headers) : (headers.putAll new).get? other = headers.get? other := by
  unfold putAll
  induction new generalizing headers with
  | nil => rfl
  | cons field rest ih =>
    rw [List.forall_mem_cons] at h
    rw [List.foldl_cons, ih h.2, get?_put_of_ne h.1]

end Headers

/-! ## Requests -/

/-- Whether a request proves who asks in the given way, and in no other. -/
def Request.Shows (r : Request) : Authentication → Prop
  | .basic user password => r.login = some (user, password) ∧ r.headers.get? "Authorization" = none
  | .bearer token =>
    r.login = none ∧ r.headers.get? "Authorization" = some (.textual (token.asText.behind "Bearer ".toList))
  | .unknown => False

namespace Session

/-- Whether all requests of a session prove who asks in the given way, if they bring no proof of their own. -/
def Proves (s : Session) (authentication : Authentication) : Prop :=
  ∀ url headers, (∀ field ∈ headers, Headers.key field.1 ≠ Headers.key "Authorization") →
    (s.request url headers).Shows authentication

/-- A session that sends a token does not use a login. -/
theorem Proves.not_basic {s : Session} {token : Value} (h : s.Proves (.bearer token)) (user password : Value) :
    ¬s.Proves (.basic user password) := by
  intro hbasic
  have htoken := (h "" [] (List.forall_mem_nil _)).1
  have hlogin := (hbasic "" [] (List.forall_mem_nil _)).1
  rw [htoken] at hlogin
  contradiction

/-- **A session proves who asks as its settings say.** -/
theorem proves_of_start {settings : Settings} {s : Session} (h : start settings = .ok s) :
    s.Proves settings.authentication := by
  obtain ⟨address, -, h⟩ := Fault.exists_of_bind_eq_ok h
  obtain ⟨timeout, -, h⟩ := Fault.exists_of_bind_eq_ok h
  obtain ⟨⟨authorization, login⟩, hcredentials, h⟩ := Fault.exists_of_bind_eq_ok h
  obtain ⟨language, -, h⟩ := Fault.exists_of_bind_eq_ok h
  have hnames : ∀ name ∈ ["Accept", "Accept-Language", "DataServiceVersion", "MaxDataServiceVersion", "User-Agent"],
      Headers.key name ≠ Headers.key "Authorization" := by decide
  intro url headers hheaders
  rw [← Except.ok.inj h]
  unfold request
  cases hauthentication : settings.authentication with
  | basic user password =>
    obtain ⟨rfl, rfl⟩ := Prod.mk.inj (Except.ok.inj (hauthentication ▸ hcredentials))
    refine ⟨rfl, ?_⟩
    rw [Headers.get?_putAll_of_forall_ne hheaders]
    exact Headers.get?_of_forall_ne fun field hfield => hnames field.1 (List.mem_map_of_mem (f := Prod.fst) hfield)
  | bearer token =>
    obtain ⟨rfl, rfl⟩ := Prod.mk.inj (Except.ok.inj (hauthentication ▸ hcredentials))
    refine ⟨rfl, ?_⟩
    rw [Headers.get?_putAll_of_forall_ne hheaders]
    exact (Headers.get?_cons _ _ _).trans (if_pos rfl)
  | unknown =>
    rw [hauthentication] at hcredentials
    contradiction

end Session

/-! ## Connections and gateways -/

/-- How a session proves who asks: by the token that the caller gives, else by that of the environment, and else by a
login, of which each part is as the caller gives it or else as the environment has it. -/
def identity (env : Environment) (given : AccessArguments) : Authentication :=
  if given.bearerToken.isPresent then .bearer given.bearerToken
  else if env.getD "ODATA_BEARER_TOKEN" "" = "" then
    .basic (env.valueOr given.user "ODATA_USER" "") (env.valueOr given.password "ODATA_PASS" "")
  else .bearer (.text (env.getD "ODATA_BEARER_TOKEN" ""))

theorem Value.isPresent_text_iff (s : String) : (Value.text s).isPresent = true ↔ s ≠ "" := by
  change (!s.isEmpty) = true ↔ _
  rw [Bool.not_eq_true', ← Bool.not_eq_true, String.isEmpty_iff]

/-- The access of a caller and an environment stands for their identity. -/
theorem Access.authentication_of_resolve {env : Environment} {given : AccessArguments} {access : Access}
    (h : resolve env given = .ok access) : access.authentication = identity env given := by
  obtain ⟨serviceUrl, -, h⟩ := Fault.exists_of_bind_eq_ok h
  obtain ⟨pageSize, -, h⟩ := Fault.exists_of_bind_eq_ok h
  have htoken : access.bearerToken = given.bearerToken.orElse (.text (env.getD "ODATA_BEARER_TOKEN" "")) := by
    rw [← Except.ok.inj h]
    rfl
  have hlogin : Authentication.basic access.user access.password =
      .basic (env.valueOr given.user "ODATA_USER" "") (env.valueOr given.password "ODATA_PASS" "") := by
    rw [← Except.ok.inj h]
  unfold authentication identity
  rw [htoken, hlogin, Value.orElse]
  by_cases hgiven : given.bearerToken.isPresent = true
  · rw [if_pos hgiven, if_pos hgiven, if_pos hgiven]
  · rw [if_neg hgiven, if_neg hgiven]
    simp only [Value.isPresent_text_iff, ite_not]

theorem identity_of_token {given : AccessArguments} (h : given.bearerToken.isPresent = true) (env : Environment) :
    identity env given = .bearer given.bearerToken :=
  if_pos h

/-- A login that the caller gives without a token is used just if the environment has no token. -/
theorem identity_eq_login_iff {given : AccessArguments} (htoken : given.bearerToken.isPresent = false)
    (huser : given.user.isPresent = true) (hpassword : given.password.isPresent = true) (env : Environment) :
    identity env given = .basic given.user given.password ↔ env.getD "ODATA_BEARER_TOKEN" "" = "" := by
  unfold identity Environment.valueOr Value.orElse
  rw [if_neg (by simp [htoken]), if_pos huser, if_pos hpassword]
  split <;> simp_all

/-- A connection keeps the access that its caller and the environment describe, and opens its session with it. -/
theorem Connection.start_of_ofArguments {env : Environment} {given : ConnectionArguments} {c : Connection} {s : Session}
    (hc : ofArguments env given = .ok c) (hs : c.session = .ok s) :
    Access.resolve env given.toAccessArguments = .ok c.access ∧ Session.start c.settings = .ok s := by
  obtain ⟨access, haccess, hc⟩ := Fault.exists_of_bind_eq_ok hc
  dsimp only at hc
  split at hc
  · contradiction
  · split at hc
    · contradiction
    · rw [← Except.ok.inj hc] at hs ⊢
      exact ⟨haccess, hs⟩

/-- A gateway keeps the access that its caller and the environment describe, and opens its session with it. -/
theorem Gateway.start_of_ofArguments {env : Environment} {given : GatewayArguments} {g : Gateway} {s : Session}
    (hg : ofArguments env given = .ok g) (hs : g.session = .ok s) :
    Access.resolve env given.toAccessArguments = .ok g.access ∧
    ∃ settings, Session.start settings = .ok s ∧ settings.authentication = g.access.authentication ∧
      settings.serviceUrl = .text g.access.serviceUrl := by
  obtain ⟨access, haccess, hg⟩ := Fault.exists_of_bind_eq_ok hg
  obtain ⟨lifetime, -, hg⟩ := Fault.exists_of_bind_eq_ok hg
  rw [← Except.ok.inj hg] at hs ⊢
  obtain ⟨settings, hsettings, hstart⟩ := Fault.exists_of_bind_eq_ok hs
  obtain ⟨timeout, -, hsettings⟩ := Fault.exists_of_bind_eq_ok hsettings
  obtain ⟨retries, -, hsettings⟩ := Fault.exists_of_bind_eq_ok hsettings
  obtain ⟨backoff, -, hsettings⟩ := Fault.exists_of_bind_eq_ok hsettings
  rw [← Except.ok.inj hsettings] at hstart
  exact ⟨haccess, _, hstart, rfl, rfl⟩

theorem Connection.proves_identity {env : Environment} {given : ConnectionArguments} {c : Connection} {s : Session}
    (hc : ofArguments env given = .ok c) (hs : c.session = .ok s) :
    s.Proves (identity env given.toAccessArguments) := by
  obtain ⟨haccess, hstart⟩ := start_of_ofArguments hc hs
  exact Access.authentication_of_resolve haccess ▸ Session.proves_of_start hstart

theorem Gateway.proves_identity {env : Environment} {given : GatewayArguments} {g : Gateway} {s : Session}
    (hg : ofArguments env given = .ok g) (hs : g.session = .ok s) :
    s.Proves (identity env given.toAccessArguments) := by
  obtain ⟨haccess, settings, hstart, hauthentication, -⟩ := start_of_ofArguments hg hs
  rw [← Access.authentication_of_resolve haccess, ← hauthentication]
  exact Session.proves_of_start hstart

/-- **Who the session of a connection or of a gateway says is asking.** Both resolve the settings in the same way. A
token that the caller gives is the one that is sent. A login that the caller gives without a token is used just if the
environment has no token. -/
theorem session_proves_identity (env : Environment) :
    (∀ given c s, Connection.ofArguments env given = .ok c → c.session = .ok s →
      s.Proves (identity env given.toAccessArguments)) ∧
    (∀ given g s, Gateway.ofArguments env given = .ok g → g.session = .ok s →
      s.Proves (identity env given.toAccessArguments)) ∧
    ∀ given : AccessArguments,
      (given.bearerToken.isPresent = true → identity env given = .bearer given.bearerToken) ∧
      (given.bearerToken.isPresent = false → given.user.isPresent = true → given.password.isPresent = true →
        (identity env given = .basic given.user given.password ↔ env.getD "ODATA_BEARER_TOKEN" "" = "")) :=
  ⟨fun _ _ _ => Connection.proves_identity, fun _ _ _ => Gateway.proves_identity,
    fun _ => ⟨fun h => identity_of_token h env, fun htoken huser hpassword =>
      identity_eq_login_iff htoken huser hpassword env⟩⟩

/-! ### A caller with a login -/

/-- What a caller says who gives a login and the given token, which may be null. -/
def loginArguments (token : Value) : AccessArguments where
  serviceUrl := .text "https://host/svc"
  user := .text "ann"
  password := .text "secret"
  bearerToken := token

/-- An environment with a token. -/
def tokenEnvironment : Environment :=
  [("ODATA_BEARER_TOKEN", "token-of-env")]

/-- The login is used where the environment has no token, and a token of the caller in every environment. -/
theorem session_proves_identity_of_caller :
    (∃ c s, Connection.ofArguments [] { toAccessArguments := loginArguments .null } = .ok c ∧ c.session = .ok s ∧
      s.Proves (.basic (.text "ann") (.text "secret"))) ∧
    ∃ g s, Gateway.ofArguments tokenEnvironment { toAccessArguments := loginArguments (.text "token-of-ann") } = .ok g ∧
      g.session = .ok s ∧ s.Proves (.bearer (.text "token-of-ann")) := by
  constructor
  · obtain ⟨hconnection, -, hidentity⟩ := session_proves_identity []
    obtain ⟨c, s, hc, hs⟩ : ∃ c s, Connection.ofArguments [] { toAccessArguments := loginArguments .null } = .ok c ∧
      c.session = .ok s := ⟨_, _, rfl, rfl⟩
    have hlogin := ((hidentity (loginArguments .null)).2 rfl rfl rfl).2 rfl
    exact ⟨c, s, hc, hs, hlogin ▸ hconnection _ c s hc hs⟩
  · obtain ⟨-, hgateway, hidentity⟩ := session_proves_identity tokenEnvironment
    obtain ⟨g, s, hg, hs⟩ : ∃ g s, Gateway.ofArguments tokenEnvironment
      { toAccessArguments := loginArguments (.text "token-of-ann") } = .ok g ∧ g.session = .ok s := ⟨_, _, rfl, rfl⟩
    have htoken := (hidentity (loginArguments (.text "token-of-ann"))).1 rfl
    exact ⟨g, s, hg, hs, htoken ▸ hgateway _ g s hg hs⟩

/-- **The login of a caller loses to a token of the environment.** -/
theorem login_loses_to_environment :
    (∃ c s, Connection.ofArguments tokenEnvironment { toAccessArguments := loginArguments .null } = .ok c ∧
      c.session = .ok s ∧ s.Proves (.bearer (.text "token-of-env")) ∧
      ¬s.Proves (.basic (.text "ann") (.text "secret"))) ∧
    ∃ g s, Gateway.ofArguments tokenEnvironment { toAccessArguments := loginArguments .null } = .ok g ∧
      g.session = .ok s ∧ s.Proves (.bearer (.text "token-of-env")) ∧
      ¬s.Proves (.basic (.text "ann") (.text "secret")) := by
  have hidentity : identity tokenEnvironment (loginArguments .null) = .bearer (.text "token-of-env") := by rfl
  constructor
  · obtain ⟨c, s, hc, hs⟩ : ∃ c s, Connection.ofArguments tokenEnvironment
      { toAccessArguments := loginArguments .null } = .ok c ∧ c.session = .ok s := ⟨_, _, rfl, rfl⟩
    have hproves := hidentity ▸ Connection.proves_identity hc hs
    exact ⟨c, s, hc, hs, hproves, hproves.not_basic _ _⟩
  · obtain ⟨g, s, hg, hs⟩ : ∃ g s, Gateway.ofArguments tokenEnvironment
      { toAccessArguments := loginArguments .null } = .ok g ∧ g.session = .ok s := ⟨_, _, rfl, rfl⟩
    have hproves := hidentity ▸ Gateway.proves_identity hg hs
    exact ⟨g, s, hg, hs, hproves, hproves.not_basic _ _⟩

end ODataBrowser
