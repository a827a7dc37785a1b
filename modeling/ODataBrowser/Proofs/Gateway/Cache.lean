import ODataBrowser.Proofs.Gateway.Pagers

/-!
# The resources that a gateway remembers

A gateway remembers the resources of the last discovery that succeeded since it was closed, with the time at which that
began (`Gateway.LastFound`). While this time is within the lifetime it answers with them and sends nothing. Otherwise it
discovers afresh, and where that fails all later answers are as if it had not been tried
(`Gateway.resources_of_history`).
-/

namespace ODataBrowser

/-! ## Times -/

/-- Whether a lifetime that began earlier is not over yet. The age is calculated as `Value.difference` does: exactly for
integers, and else as the double nearest to it. -/
def IsWithin (lifetime earlier now : Value) : Prop :=
  ∃ age, now.difference earlier = .ok age ∧ age.less lifetime = .ok true

/-- For integers this is what it says. -/
theorem isWithin_int_iff (lifetime earlier now : Int) :
    IsWithin (.int lifetime) (.int earlier) (.int now) ↔ now < earlier + lifetime := by
  have hage : (Value.int now).difference (.int earlier) = .ok (.int (now - earlier)) := rfl
  simp only [IsWithin, hage, Except.ok.injEq, exists_eq_left', Value.less_int, decide_eq_true_iff]
  omega

/-- Whether a value is an integer or a double. -/
def Value.IsNumber : Value → Prop
  | .int _ | .float _ => True
  | _ => False

/-- Whether a value is what a clock can show: a double, or an integer in the range of doubles. -/
def Value.IsReading : Value → Prop
  | .int n => ∃ x, Binary64.ofInt? n = some x
  | .float _ => True
  | _ => False

theorem Value.IsReading.exists_toBinary64 {v : Value} (h : v.IsReading) : ∃ x, v.toBinary64 = .ok x := by
  unfold IsReading at h
  split at h
  case h_1 n =>
    obtain ⟨x, hx⟩ := h
    exact ⟨x, by rw [toBinary64, hx]⟩
  case h_2 x => exact ⟨x, rfl⟩
  case h_3 => contradiction

/-- Two readings have a difference. -/
theorem Value.IsReading.exists_difference {now earlier : Value} (hnow : now.IsReading) (hearlier : earlier.IsReading) :
    ∃ age, now.difference earlier = .ok age ∧ age.IsNumber := by
  obtain ⟨x, hx⟩ := hnow.exists_toBinary64
  obtain ⟨y, hy⟩ := hearlier.exists_toBinary64
  unfold difference
  split
  · exact ⟨_, rfl, trivial⟩
  · rw [hx, hy]
    exact ⟨_, rfl, trivial⟩

theorem Value.IsNumber.exists_scalar {v : Value} (h : v.IsNumber) :
    ∃ s, v = .scalar s ∧ s.isNumeric = true ∧ s.isDecimal = false := by
  unfold IsNumber at h
  split at h
  case h_1 n => exact ⟨_, rfl, rfl, rfl⟩
  case h_2 x =>
    refine ⟨_, rfl, ?_, rfl⟩
    cases x with
    | nan => rfl
    | infinite negative => rfl
    | finite negative m e =>
      unfold Scalar.isNumeric Scalar.toExact? Exact.ofBinary64?
      dsimp only
      split <;> rfl
  case h_3 => contradiction

/-- Two numbers can be compared. -/
theorem Value.IsNumber.exists_less {v w : Value} (hv : v.IsNumber) (hw : w.IsNumber) : ∃ b, v.less w = .ok b := by
  obtain ⟨a, rfl, ha, ha'⟩ := hv.exists_scalar
  obtain ⟨b, rfl, hb, hb'⟩ := hw.exists_scalar
  simp only [less, Scalar.less, ha, hb, ha', hb', Bool.not_true, Bool.or_self, Bool.false_eq_true, if_false]
  split <;> exact ⟨_, rfl⟩

/-! ## Calls -/

/-- A call that bears on what a gateway remembers. -/
inductive CacheCall where
  /-- The resources are asked for at a time, with what the requests to the service would come to. -/
  | resources (now : Value) (outcomes : List Outcome)
  /-- The gateway is closed. -/
  | close

/-- Whether the clock showed a number at a call. -/
def CacheCall.IsTimed : CacheCall → Prop
  | .resources now _ => now.IsReading
  | .close => True

namespace Gateway

/-- The gateway after a call. -/
def call (g : Gateway) : CacheCall → Gateway
  | .resources now outcomes => (g.resources now outcomes).2
  | .close => g.close

/-- The gateway after several calls, the latest of which comes first. -/
def afterHistory (g : Gateway) : List CacheCall → Gateway
  | [] => g
  | latest :: earlier => (g.afterHistory earlier).call latest

/-- What it comes to, after several calls, to ask for the resources. -/
def answerTo (g : Gateway) (history : List CacheCall) (now : Value) (outcomes : List Outcome) :
    Exchange (List Resource × Bool) :=
  ((g.afterHistory history).resources now outcomes).1

/-- What the last discovery found that succeeded since the gateway was closed, and the time at which it began. -/
inductive LastFound (g : Gateway) : List CacheCall → Value → List Resource → Prop where
  /-- The latest call was a discovery that succeeded. -/
  | found {earlier : List CacheCall} {now : Value} {outcomes : List Outcome} {resources : List Resource}
      (h : (g.answerTo earlier now outcomes).result = .ok (resources, false)) :
      LastFound g (.resources now outcomes :: earlier) now resources
  /-- The latest call was no such discovery, and did not close the gateway. -/
  | kept {earlier : List CacheCall} {now time : Value} {outcomes : List Outcome} {resources : List Resource}
      (h : ∀ others, (g.answerTo earlier now outcomes).result ≠ .ok (others, false))
      (hlast : LastFound g earlier time resources) : LastFound g (.resources now outcomes :: earlier) time resources

/-! ## One call -/

/-- A discovery by the session of the gateway. -/
def discovery (g : Gateway) (outcomes : List Outcome) : Exchange (List Resource) :=
  match g.session with
  | .error fault => ⟨.error fault, [], outcomes⟩
  | .ok session => session.discover outcomes

/-- The answer with the resources of a discovery. -/
def fresh (g : Gateway) (outcomes : List Outcome) : Exchange (List Resource × Bool) :=
  let found := g.discovery outcomes
  ⟨found.result.map (·, false), found.sent, found.pending⟩

theorem discover_eq (g : Gateway) (now : Value) (outcomes : List Outcome) :
    g.discover now outcomes = (g.discovery outcomes, g.afterUse.remember now (g.discovery outcomes).result) := by
  unfold discover discovery
  cases h : g.session with
  | ok session => rfl
  | error fault => rw [g.afterUse_of_error h]; rfl

/-- The resources that are remembered are fresh enough at just the times within the lifetime. -/
theorem remembered?_eq_some_iff {g : Gateway} {now : Value} {resources : List Resource} :
    g.remembered? now = .ok (some resources) ↔
      ∃ time, g.cache = some ⟨time, resources⟩ ∧ IsWithin g.cacheLifetime time now := by
  constructor
  · intro h
    unfold remembered? at h
    split at h
    case h_1 => exact nomatch Except.ok.inj h
    case h_2 cache hcache =>
      obtain ⟨age, hage, h⟩ := Fault.exists_of_bind_eq_ok h
      obtain ⟨fresh, hfresh, h⟩ := Fault.exists_of_bind_eq_ok h
      cases fresh with
      | false => exact nomatch Except.ok.inj h
      | true =>
        obtain rfl := Option.some.inj (Except.ok.inj h)
        exact ⟨cache.time, hcache, age, hage, hfresh⟩
  · rintro ⟨time, hcache, age, hage, hfresh⟩
    unfold remembered?
    rw [hcache]
    dsimp only
    rw [hage]
    change (age.less g.cacheLifetime >>= _) = _
    rw [hfresh]
    rfl

/-- A call for the resources answers with what is remembered, or else by a discovery. -/
theorem resources_eq (g : Gateway) (now : Value) (outcomes : List Outcome) :
    g.resources now outcomes =
      match g.remembered? now with
      | .error fault => (⟨.error fault, [], outcomes⟩, g)
      | .ok (some resources) => (⟨.ok (resources, true), [], outcomes⟩, g)
      | .ok none => (g.fresh outcomes, g.afterUse.remember now (g.discovery outcomes).result) := by
  unfold resources
  rw [discover_eq]
  cases g.remembered? now with
  | error fault => rfl
  | ok found => cases found <;> rfl

theorem resources_of_remembered {g : Gateway} {now : Value} {found : Option (List Resource)}
    (h : g.remembered? now = .ok found) (outcomes : List Outcome) :
    (g.resources now outcomes).1 =
      found.elim (g.fresh outcomes) fun resources => ⟨.ok (resources, true), [], outcomes⟩ := by
  rw [resources_eq, h]
  cases found <;> rfl

theorem result_fresh_ne_cached (g : Gateway) (outcomes : List Outcome) (resources : List Resource) :
    (g.fresh outcomes).result ≠ .ok (resources, true) := by
  unfold fresh
  dsimp only
  cases (g.discovery outcomes).result <;> simp [Except.map]

/-- **What a call for the resources leaves behind.** The gateway keeps its configuration and its session, and remembers
the resources of a discovery that succeeds. -/
theorem resources_spec (g : Gateway) (now : Value) (outcomes : List Outcome) :
    let answer := (g.resources now outcomes).1.result
    let after := (g.resources now outcomes).2
    after.close = g.close ∧ after.session = g.session ∧
    (∀ resources, answer = .ok (resources, false) → after.cache = some ⟨now, resources⟩) ∧
    ((∀ resources, answer ≠ .ok (resources, false)) → after.cache = g.cache) := by
  rw [resources_eq]
  split
  case h_1 => exact ⟨rfl, rfl, fun _ h => (nomatch h), fun _ => rfl⟩
  case h_2 => exact ⟨rfl, rfl, fun _ h => (nomatch h), fun _ => rfl⟩
  case h_3 =>
    unfold fresh remember
    dsimp only
    cases (g.discovery outcomes).result with
    | error fault => exact ⟨rfl, g.session_afterUse, fun _ h => (nomatch h), fun _ => rfl⟩
    | ok found =>
      refine ⟨rfl, g.session_afterUse, fun resources h => ?_, fun h => absurd rfl (h found)⟩
      rw [(Prod.mk.inj (Except.ok.inj h)).1]

/-! ## What is remembered after several calls -/

/-- What holds of a gateway that has come from another one by several calls. -/
structure Remembers (g h : Gateway) (history : List CacheCall) : Prop where
  close_eq : h.close = g.close
  session_eq : h.session = g.session
  cache_eq_some_iff (time : Value) (resources : List Resource) :
    h.cache = some ⟨time, resources⟩ ↔ g.LastFound history time resources

/-- **A gateway remembers what was found last.** -/
theorem remembers_afterHistory {g : Gateway} (hnew : g.close = g) (history : List CacheCall) :
    Remembers g (g.afterHistory history) history := by
  induction history with
  | nil =>
    refine ⟨rfl, rfl, fun time resources => iff_of_false (fun h => ?_) nofun⟩
    have hcache : g.cache = none := hnew ▸ rfl
    rw [afterHistory, hcache] at h
    contradiction
  | cons latest earlier ih =>
    cases latest with
    | close =>
      refine ⟨ih.close_eq, ?_, fun time resources => iff_of_false nofun nofun⟩
      rw [afterHistory, call, ih.close_eq, hnew]
    | resources now outcomes =>
      obtain ⟨hclose, hsession, hfound, hkept⟩ := (g.afterHistory earlier).resources_spec now outcomes
      refine ⟨hclose.trans ih.close_eq, hsession.trans ih.session_eq, fun time resources => ?_⟩
      rw [afterHistory, call]
      by_cases hsuccess : ∃ found, (g.answerTo earlier now outcomes).result = .ok (found, false)
      · obtain ⟨found, hanswer⟩ := hsuccess
        rw [hfound found hanswer]
        constructor
        · intro h
          obtain ⟨rfl, rfl⟩ := ResourceCache.mk.inj (Option.some.inj h)
          exact .found hanswer
        · intro h
          cases h with
          | found h =>
            rw [(Prod.mk.inj (Except.ok.inj (hanswer.symm.trans h))).1]
          | kept h hlast => exact absurd hanswer (h found)
      · have hnone : ∀ found, (g.answerTo earlier now outcomes).result ≠ .ok (found, false) :=
          fun found h => hsuccess ⟨found, h⟩
        rw [hkept hnone, ih.cache_eq_some_iff]
        constructor
        · exact .kept hnone
        · intro h
          cases h with
          | found h => exact absurd h (hnone resources)
          | kept h hlast => exact hlast

/-! ## Gateways that answer alike -/

/-- Whether two gateways answer alike from now on. -/
structure Alike (g h : Gateway) : Prop where
  close_eq : g.close = h.close
  session_eq : g.session = h.session
  cache_eq : g.cache = h.cache

namespace Alike

variable {g h : Gateway}

theorem answer_eq (halike : Alike g h) (now : Value) (outcomes : List Outcome) :
    (g.resources now outcomes).1 = (h.resources now outcomes).1 := by
  have hlifetime : g.cacheLifetime = h.cacheLifetime := congrArg (·.cacheLifetime) halike.close_eq
  have hremembered : g.remembered? now = h.remembered? now := by
    unfold remembered?
    rw [halike.cache_eq, hlifetime]
  have hfresh : g.fresh outcomes = h.fresh outcomes := by
    unfold fresh discovery
    rw [halike.session_eq]
  rw [resources_eq, resources_eq, hremembered, hfresh]
  split <;> rfl

/-- A call that finds nothing does not change how the gateway answers. -/
theorem of_not_found {now : Value} {outcomes : List Outcome}
    (hnone : ∀ resources, (g.resources now outcomes).1.result ≠ .ok (resources, false)) :
    Alike (g.resources now outcomes).2 g := by
  obtain ⟨hclose, hsession, -, hkept⟩ := g.resources_spec now outcomes
  exact ⟨hclose, hsession, hkept hnone⟩

theorem call (halike : Alike g h) (c : CacheCall) : Alike (g.call c) (h.call c) := by
  cases c with
  | close => exact ⟨halike.close_eq, congrArg session halike.close_eq, rfl⟩
  | resources now outcomes =>
    obtain ⟨hclose, hsession, hfound, hkept⟩ := g.resources_spec now outcomes
    obtain ⟨hclose', hsession', hfound', hkept'⟩ := h.resources_spec now outcomes
    have hanswer := halike.answer_eq now outcomes
    refine ⟨?_, ?_, ?_⟩
    · exact (hclose.trans halike.close_eq).trans hclose'.symm
    · exact (hsession.trans halike.session_eq).trans hsession'.symm
    · by_cases hsuccess : ∃ found, (g.resources now outcomes).1.result = .ok (found, false)
      · obtain ⟨found, h⟩ := hsuccess
        exact (hfound found h).trans (hfound' found (hanswer ▸ h)).symm
      · have hnone := not_exists.1 hsuccess
        exact ((hkept hnone).trans halike.cache_eq).trans (hkept' (hanswer ▸ hnone)).symm

theorem afterHistory (halike : Alike g h) (history : List CacheCall) :
    Alike (g.afterHistory history) (h.afterHistory history) := by
  induction history with
  | nil => exact halike
  | cons latest earlier ih => exact ih.call latest

end Alike

theorem afterHistory_append (g : Gateway) (later history : List CacheCall) :
    g.afterHistory (later ++ history) = (g.afterHistory history).afterHistory later := by
  induction later with
  | nil => rfl
  | cons latest later ih => rw [List.cons_append, afterHistory, afterHistory, ih]

/-! ## Answers after several calls -/

/-- With a number as its lifetime and with readings as its times, a gateway can tell what is fresh. -/
theorem exists_remembered? {g : Gateway} (hlifetime : g.cacheLifetime.IsNumber) {now : Value} (hnow : now.IsReading)
    (hcache : ∀ cache ∈ g.cache, cache.time.IsReading) : ∃ found, g.remembered? now = .ok found := by
  unfold remembered?
  split
  case h_1 => exact ⟨_, rfl⟩
  case h_2 cache heq =>
    obtain ⟨age, hage, hnumber⟩ := hnow.exists_difference (hcache cache heq)
    obtain ⟨fresh, hfresh⟩ := hnumber.exists_less hlifetime
    rw [hage]
    change ∃ found, (age.less g.cacheLifetime >>= _) = _
    rw [hfresh]
    exact ⟨_, rfl⟩

theorem LastFound.isReading {g : Gateway} {history : List CacheCall} (htimed : ∀ c ∈ history, c.IsTimed)
    {time : Value} {resources : List Resource} (h : g.LastFound history time resources) : time.IsReading := by
  induction h with
  | found h => exact htimed _ List.mem_cons_self
  | kept h hlast ih => exact ih fun c hc => htimed c (List.mem_cons_of_mem _ hc)

/-- **When a gateway answers from what it remembers.** A new gateway has come by several calls to where the resources
are asked for. It answers with what the last discovery found that succeeded since it was closed just if the time at
which that began is within the lifetime, and sends nothing then. Otherwise it discovers afresh. If that fails, what is
remembered and all later answers are as without this call. -/
theorem resources_of_history {g : Gateway} (hnew : g.close = g) (hlifetime : g.cacheLifetime.IsNumber)
    {history : List CacheCall} (htimed : ∀ c ∈ history, c.IsTimed) {now : Value} (hnow : now.IsReading)
    (outcomes : List Outcome) :
    let exchange := g.answerTo history now outcomes
    (∀ resources, exchange.result = .ok (resources, true) ↔
      ∃ time, g.LastFound history time resources ∧ IsWithin g.cacheLifetime time now) ∧
    ((∃ resources, exchange.result = .ok (resources, true)) → exchange.sent = [] ∧ exchange.pending = outcomes) ∧
    ((¬∃ resources, exchange.result = .ok (resources, true)) → exchange = g.fresh outcomes) ∧
    ∀ fault, exchange.result = .error fault →
      (g.afterHistory (.resources now outcomes :: history)).cache = (g.afterHistory history).cache ∧
      ∀ later now' outcomes', g.answerTo (later ++ .resources now outcomes :: history) now' outcomes' =
        g.answerTo (later ++ history) now' outcomes' := by
  intro exchange
  have hremembers := remembers_afterHistory hnew history
  have hlifetime' : (g.afterHistory history).cacheLifetime = g.cacheLifetime :=
    congrArg (·.cacheLifetime) hremembers.close_eq
  have hreadings : ∀ cache ∈ (g.afterHistory history).cache, cache.time.IsReading := fun cache hcache =>
    ((hremembers.cache_eq_some_iff cache.time cache.resources).1 hcache).isReading htimed
  obtain ⟨found, hfound⟩ := exists_remembered? (hlifetime' ▸ hlifetime) hnow hreadings
  have hexchange : exchange = _ := resources_of_remembered hfound outcomes
  have hiff (resources : List Resource) : found = some resources ↔
      ∃ time, g.LastFound history time resources ∧ IsWithin g.cacheLifetime time now := by
    rw [← Except.ok.injEq, ← hfound, remembered?_eq_some_iff, hlifetime']
    simp only [hremembers.cache_eq_some_iff]
  have hfresh : (g.afterHistory history).fresh outcomes = g.fresh outcomes := by
    unfold fresh discovery
    rw [hremembers.session_eq]
  refine ⟨fun resources => ?_, ?_, ?_, fun fault herror => ?_⟩
  · rw [← hiff, hexchange]
    cases found with
    | none => exact iff_of_false (result_fresh_ne_cached _ _ _) nofun
    | some found => simp
  · rintro ⟨resources, hcached⟩
    rw [hexchange] at hcached ⊢
    cases found with
    | none => exact absurd hcached (result_fresh_ne_cached _ _ _)
    | some found => exact ⟨rfl, rfl⟩
  · intro hnot
    cases found with
    | none => exact hexchange.trans hfresh
    | some found => exact absurd ⟨found, congrArg Exchange.result hexchange⟩ hnot
  · have halike : Alike (g.afterHistory (.resources now outcomes :: history)) (g.afterHistory history) :=
      .of_not_found fun resources h => nomatch herror.symm.trans h
    refine ⟨halike.cache_eq, fun later now' outcomes' => ?_⟩
    unfold answerTo
    rw [afterHistory_append, afterHistory_append]
    exact (halike.afterHistory later).answer_eq now' outcomes'

/-- The answers of a service that has no service document, and metadata that list a resource. -/
def listing : List Outcome :=
  [.response ⟨404, "", [], "not found"⟩, .response ⟨200, "", [], "<e><EntitySet Name=\"A\"/></e>"⟩]

/-- A resource that was found at second 1000 is remembered for 900 seconds. A discovery at second 1500, before the clock
went back, had failed. -/
theorem resources_of_history_at_1899 :
    let g := standard "https://host/svc" 2
    let history := [.resources (.int 1000) listing, .resources (.int 1500) [], .close]
    let answer := g.answerTo history (.int 1899) []
    (g.close = g ∧ g.cacheLifetime.IsNumber ∧ (∀ c ∈ history, c.IsTimed) ∧ (Value.int 1899).IsReading) ∧
    answer.result = .ok ([⟨.string "A", .entitySet, .string "https://host/svc/A"⟩], true) ∧ answer.sent = [] := by
  intro g history answer
  have hnew : g.close = g := rfl
  have hlifetime : g.cacheLifetime.IsNumber := trivial
  have htimed : ∀ c ∈ history, c.IsTimed := by
    refine List.forall_mem_cons.2 ⟨⟨_, rfl⟩, List.forall_mem_cons.2 ⟨⟨_, rfl⟩, ?_⟩⟩
    exact List.forall_mem_cons.2 ⟨trivial, List.forall_mem_nil _⟩
  have hnow : (Value.int 1899).IsReading := ⟨_, rfl⟩
  have hfound : (g.answerTo [.resources (.int 1500) [], .close] (.int 1000) listing).result =
      .ok ([⟨.string "A", .entitySet, .string "https://host/svc/A"⟩], false) :=
    Fault.eq_ok_of_toOption (by decide +kernel)
  obtain ⟨hcached, hsent, -⟩ := resources_of_history hnew hlifetime htimed hnow []
  have hresult := (hcached _).2 ⟨.int 1000, .found hfound, (isWithin_int_iff 900 1000 1899).2 (by decide)⟩
  exact ⟨⟨hnew, hlifetime, htimed, hnow⟩, hresult, (hsent ⟨_, hresult⟩).1⟩

end Gateway

end ODataBrowser
