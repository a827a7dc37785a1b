import ODataBrowser.Proofs.Service.Credentials
import ODataBrowser.Proofs.Text.Blank

/-!
# The root address of a session

Cleaning an address takes the white space off its ends and then the slashes off its end. No slash is left there, but
white space is left if it stood before the slashes (`endsIn_cleanUrl_iff`), and then cleaning once more takes off more
(`cleanUrl_cleanUrl_eq_iff`). A connection or a gateway cleans the address that it is given and says that this is its
address; its session cleans it once more. So the two are the same just if no white space stands before the slashes
(`base_of_session`).
-/

namespace ODataBrowser

open Text

/-! ## Cleaned addresses -/

theorem toList_cleanUrl (url : String) : (cleanUrl url).toList = dropEndWhile (· == '/') (strip url.toList) :=
  String.toList_ofList

/-- Whether white space stands before the slashes at the end of a text, when the white space around it is removed. -/
def HasBlankBeforeSlash (cs : List Char) : Prop :=
  ∃ front c n, isBlank c = true ∧ strip cs = front ++ c :: List.replicate (n + 1) '/'

/-- A cleaned address does not end in a slash. -/
theorem not_endsIn_slash_cleanUrl (url : String) : endsIn (· == '/') (cleanUrl url).toList = false := by
  rw [toList_cleanUrl]
  exact endsIn_dropEndWhile _ _

/-- A cleaned address ends in white space just if that stood before slashes. -/
theorem endsIn_cleanUrl_iff {url : String} :
    endsIn isBlank (cleanUrl url).toList = true ↔ HasBlankBeforeSlash url.toList := by
  rw [toList_cleanUrl]
  constructor
  · intro h
    obtain ⟨slashes, hsplit, hslashes⟩ := exists_eq_dropEndWhile_append (· == '/') (strip url.toList)
    obtain ⟨front, c, hfront, hc⟩ := exists_of_endsIn h
    rw [hfront, List.append_assoc, List.singleton_append] at hsplit
    have hreplicate : slashes = List.replicate slashes.length '/' :=
      List.eq_replicate_iff.2 ⟨rfl, fun d hd => beq_iff_eq.1 (hslashes d hd)⟩
    cases hlength : slashes.length with
    | zero =>
      -- Without slashes, the white space would be at the end of the trimmed text.
      have hend := endsIn_strip url.toList
      rw [hsplit, List.length_eq_zero_iff.1 hlength, endsIn_append_singleton, hc] at hend
      contradiction
    | succ n =>
      rw [hlength] at hreplicate
      exact ⟨front, c, n, hc, hreplicate ▸ hsplit⟩
  · rintro ⟨front, c, n, hc, hstrip⟩
    have hslash : (c == '/') = false := by
      rw [beq_eq_false_iff_ne]
      rintro rfl
      exact absurd hc (by decide)
    rw [hstrip, dropEndWhile_append_cons (p := (· == '/')) hslash, dropEndWhile, List.reverse_replicate,
      List.dropWhile_replicate, if_pos (beq_self_eq_true '/'), List.reverse_nil, endsIn_append_singleton, hc]

/-- Cleaning an address once more changes it just if white space is at its end. -/
theorem cleanUrl_cleanUrl_eq_iff {url : String} :
    cleanUrl (cleanUrl url) = cleanUrl url ↔ ¬HasBlankBeforeSlash url.toList := by
  rw [← endsIn_cleanUrl_iff, Bool.not_eq_true, ← String.toList_inj, toList_cleanUrl (cleanUrl url)]
  constructor
  · intro h
    -- What is left of the trimmed text is all of the text, so nothing was trimmed.
    have hwhole : (cleanUrl url).toList <+: strip (cleanUrl url).toList := by
      obtain ⟨slashes, hsplit, -⟩ := exists_eq_dropEndWhile_append (· == '/') (strip (cleanUrl url).toList)
      rw [h] at hsplit
      exact ⟨slashes, hsplit.symm⟩
    rw [hwhole.eq_of_length_le (length_strip_le _)]
    exact endsIn_strip _
  · intro hlast
    have hfirst : ∀ c ∈ (cleanUrl url).toList.head?, isBlank c = false := by
      intro c hc
      rw [toList_cleanUrl] at hc
      exact isBlank_of_mem_head?_strip (mem_head?_of_dropEndWhile hc)
    rw [strip_eq_self_of_ends hfirst hlast, dropEndWhile_eq_self_iff]
    exact not_endsIn_slash_cleanUrl url

/-! ## Sessions -/

/-- The address that a caller and the environment give. -/
def givenUrl (env : Environment) (given : AccessArguments) : Except Fault String :=
  (env.valueOr given.serviceUrl "ODATA_SERVICE_URL" "").toTextOrEmpty

theorem Access.serviceUrl_of_resolve {env : Environment} {given : AccessArguments} {access : Access} {url : String}
    (h : resolve env given = .ok access) (hurl : givenUrl env given = .ok url) : access.serviceUrl = cleanUrl url := by
  obtain ⟨serviceUrl, hserviceUrl, h⟩ := Fault.exists_of_bind_eq_ok h
  obtain ⟨pageSize, -, h⟩ := Fault.exists_of_bind_eq_ok h
  rw [cleanAddress, ← givenUrl, hurl] at hserviceUrl
  rw [← Except.ok.inj h]
  exact (Except.ok.inj hserviceUrl).symm

/-- A session cleans the address of its settings. -/
theorem Session.base_of_start {settings : Settings} {s : Session} {url : String} (h : start settings = .ok s)
    (hurl : settings.serviceUrl = .text url) : s.base = cleanUrl url := by
  obtain ⟨address, haddress, h⟩ := Fault.exists_of_bind_eq_ok h
  obtain ⟨timeout, -, h⟩ := Fault.exists_of_bind_eq_ok h
  obtain ⟨credentials, -, h⟩ := Fault.exists_of_bind_eq_ok h
  obtain ⟨language, -, h⟩ := Fault.exists_of_bind_eq_ok h
  have haddress : url = address := by
    rw [hurl, Value.toText, JsonText.shown, String.ofList_toList] at haddress
    exact Except.ok.inj haddress
  rw [← Except.ok.inj h, haddress]

/-- What becomes of a given address: the address that is reported, and the root of the requests. -/
structure IsRootOf (url reported base : String) : Prop where
  reported_eq : reported = cleanUrl url
  base_eq : base = cleanUrl reported
  /-- The two are the same just if no white space stands before the slashes of the given address. -/
  base_eq_iff : base = reported ↔ ¬HasBlankBeforeSlash url.toList
  not_endsIn_slash : endsIn (· == '/') base.toList = false
  /-- The root ends in white space just if that stands before slashes of the reported address. -/
  endsIn_blank_iff : endsIn isBlank base.toList = true ↔ HasBlankBeforeSlash reported.toList

theorem isRootOf_of_cleanUrl {url reported base : String} (hreported : reported = cleanUrl url)
    (hbase : base = cleanUrl reported) : IsRootOf url reported base := by
  subst hreported hbase
  exact ⟨rfl, rfl, cleanUrl_cleanUrl_eq_iff, not_endsIn_slash_cleanUrl _, endsIn_cleanUrl_iff⟩

theorem Connection.isRootOf {env : Environment} {given : ConnectionArguments} {c : Connection} {s : Session}
    {url : String} (hurl : givenUrl env given.toAccessArguments = .ok url) (hc : ofArguments env given = .ok c)
    (hs : c.session = .ok s) : IsRootOf url c.access.serviceUrl s.base := by
  obtain ⟨haccess, hstart⟩ := start_of_ofArguments hc hs
  exact isRootOf_of_cleanUrl (Access.serviceUrl_of_resolve haccess hurl) (Session.base_of_start hstart rfl)

theorem Gateway.isRootOf {env : Environment} {given : GatewayArguments} {g : Gateway} {s : Session}
    {url : String} (hurl : givenUrl env given.toAccessArguments = .ok url) (hg : ofArguments env given = .ok g)
    (hs : g.session = .ok s) : IsRootOf url g.access.serviceUrl s.base := by
  obtain ⟨haccess, settings, hstart, -, hserviceUrl⟩ := start_of_ofArguments hg hs
  exact isRootOf_of_cleanUrl (Access.serviceUrl_of_resolve haccess hurl) (Session.base_of_start hstart hserviceUrl)

/-- **The root address of a session.** A cleaned address does not end in a slash. It ends in white space just if that
stands before the slashes of the address, and only then cleaning it once more changes it. The address that a connection
or a gateway reports is the given one, cleaned, and the root of its requests is that, cleaned once more. -/
theorem base_of_session (env : Environment) (url : String) :
    (endsIn (· == '/') (cleanUrl url).toList = false ∧
      (endsIn isBlank (cleanUrl url).toList = true ↔ HasBlankBeforeSlash url.toList) ∧
      (cleanUrl (cleanUrl url) = cleanUrl url ↔ ¬HasBlankBeforeSlash url.toList)) ∧
    (∀ given c s, givenUrl env given.toAccessArguments = .ok url → Connection.ofArguments env given = .ok c →
      c.session = .ok s → IsRootOf url c.access.serviceUrl s.base) ∧
    ∀ given g s, givenUrl env given.toAccessArguments = .ok url → Gateway.ofArguments env given = .ok g →
      g.session = .ok s → IsRootOf url g.access.serviceUrl s.base :=
  ⟨⟨not_endsIn_slash_cleanUrl url, endsIn_cleanUrl_iff, cleanUrl_cleanUrl_eq_iff⟩,
    fun _ _ _ => Connection.isRootOf, fun _ _ _ => Gateway.isRootOf⟩

/-! ### A caller with a token -/

/-- What a caller says who gives an address and a token. -/
def urlArguments (url : Value) : AccessArguments where
  serviceUrl := url
  bearerToken := .text "token"

/-- An environment with an address where white space stands before the slash. -/
def blankUrlEnvironment : Environment :=
  [("ODATA_SERVICE_URL", "https://host/svc /")]

/-- Without white space before the slashes, the root is the reported address. With it, the root is shorter. -/
theorem base_of_session_of_two_urls :
    (∃ c s, Connection.ofArguments [] { toAccessArguments := urlArguments (.text " https://host/svc// ") } = .ok c ∧
      c.session = .ok s ∧ IsRootOf " https://host/svc// " c.access.serviceUrl s.base ∧ s.base = "https://host/svc") ∧
    ∃ g s, Gateway.ofArguments blankUrlEnvironment { toAccessArguments := urlArguments .null } = .ok g ∧
      g.session = .ok s ∧ IsRootOf "https://host/svc /" g.access.serviceUrl s.base ∧ s.base = "https://host/svc" := by
  constructor
  · obtain ⟨-, hconnection, -⟩ := base_of_session [] " https://host/svc// "
    obtain ⟨c, s, hc, hs, hbase⟩ : ∃ c s,
      Connection.ofArguments [] { toAccessArguments := urlArguments (.text " https://host/svc// ") } = .ok c ∧
      c.session = .ok s ∧ s.base = "https://host/svc" := ⟨_, _, rfl, rfl, by decide⟩
    exact ⟨c, s, hc, hs, hconnection _ c s rfl hc hs, hbase⟩
  · obtain ⟨-, -, hgateway⟩ := base_of_session blankUrlEnvironment "https://host/svc /"
    obtain ⟨g, s, hg, hs, hbase⟩ : ∃ g s,
      Gateway.ofArguments blankUrlEnvironment { toAccessArguments := urlArguments .null } = .ok g ∧
      g.session = .ok s ∧ s.base = "https://host/svc" := ⟨_, _, rfl, rfl, by decide⟩
    exact ⟨g, s, hg, hs, hgateway _ g s rfl hg hs, hbase⟩

/-- **The root of a session is not the reported address** where white space stands before a slash, and it ends in white
space where this is so twice. -/
theorem base_differs_from_reported :
    cleanUrl (cleanUrl "https://host/svc /") ≠ cleanUrl "https://host/svc /" ∧
    (∃ c s, Connection.ofArguments [] { toAccessArguments := urlArguments (.text "https://host/svc / /") } = .ok c ∧
      c.session = .ok s ∧ s.base ≠ c.access.serviceUrl ∧ endsIn isBlank s.base.toList = true) ∧
    ∃ g s, Gateway.ofArguments blankUrlEnvironment { toAccessArguments := urlArguments .null } = .ok g ∧
      g.session = .ok s ∧ s.base ≠ g.access.serviceUrl :=
  ⟨by decide, ⟨_, _, rfl, rfl, by decide, by decide⟩, ⟨_, _, rfl, rfl, by decide⟩⟩

end ODataBrowser
