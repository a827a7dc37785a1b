import ODataBrowser.Gateway.Basic
import ODataBrowser.Proofs.Gateway.Recent
import ODataBrowser.Proofs.Number.Order

/-!
# The pagers that a gateway keeps

A gateway keeps the pagers that were requested last (`Gateway.keeps_after`). What a request does to a gateway with room
for its pagers is one equation (`Gateway.pager_eq`): it offers the pager that is kept, or else a new one
(`Gateway.offered`), and keeps what it offers as the most recently used one. So a pager lasts until the gateway is
closed or as many other resources have been requested as pagers are kept (`Gateway.pagers_of_uses`).
-/

namespace ODataBrowser

/-! ## Uses of pagers -/

/-- A use that is made of the pagers of a gateway. -/
inductive PagerUse where
  /-- The pager of a resource is requested. -/
  | request (resource : String)
  /-- The pager that is kept for a resource comes to another state. -/
  | change (resource : String) (pager : Pager)
  /-- The gateway is closed. -/
  | close

namespace PagerUse

/-- The resources that were requested since the gateway was closed last, in the order of their requests. -/
def requested (uses : List PagerUse) : List String :=
  uses.foldl (fun names use =>
    match use with
    | request name => names ++ [name]
    | change .. => names
    | close => []) []

/-- The state that the pager of a resource has come to. -/
def stateAfter (name : String) (p : Pager) (uses : List PagerUse) : Pager :=
  uses.foldl (fun p use =>
    match use with
    | change other q => if other = name then q else p
    | _ => p) p

end PagerUse

namespace Gateway

/-- The gateway after a use of its pagers. -/
def use (g : Gateway) : PagerUse → Gateway
  | .request name => (g.pager name).2
  | .change name pager => g.store name pager
  | .close => g.close

/-- The gateway after several uses. -/
def after (g : Gateway) (uses : List PagerUse) : Gateway :=
  uses.foldl use g

/-! ## Valid configurations -/

/-- Whether the configuration is valid: its numbers can be read, and its count strategy exists. -/
structure IsValid (g : Gateway) : Prop where
  timeout : ∃ x, (Value.text (g.environment.getD "ODATA_TIMEOUT" "60")).toBinary64 = .ok x
  retries : ∃ n, (Value.text (g.environment.getD "ODATA_RETRIES" "3")).toInt = .ok n
  backoff : ∃ x, (Value.text (g.environment.getD "ODATA_BACKOFF" "0.5")).toBinary64 = .ok x
  strategy : ∃ strategy, CountStrategy.parse g.access.countStrategy none = .ok strategy

/-- A new pager of the gateway. -/
def newPager (g : Gateway) : Except Fault Pager :=
  Pager.ofArguments (.int g.access.pageSize) g.access.countStrategy

theorem newPager_eq_ok_iff {g : Gateway} {p : Pager} :
    g.newPager = .ok p ↔
      ∃ strategy, CountStrategy.parse g.access.countStrategy none = .ok strategy ∧
        p = .start g.access.pageSize strategy := by
  unfold newPager Pager.ofArguments
  cases CountStrategy.parse g.access.countStrategy none with
  | error fault => simp [Value.toInt, bind, Except.bind]
  | ok strategy => simp [Value.toInt, bind, Except.bind, pure, Except.pure, eq_comm]

/-- The settings of a gateway have an address and a login or a token, so they open a session. -/
theorem exists_start_of_settings {g : Gateway} {settings : Settings} (h : g.settings = .ok settings) :
    ∃ s, Session.start settings = .ok s := by
  obtain ⟨timeout, -, h⟩ := Fault.exists_of_bind_eq_ok h
  obtain ⟨retries, -, h⟩ := Fault.exists_of_bind_eq_ok h
  obtain ⟨backoff, -, h⟩ := Fault.exists_of_bind_eq_ok h
  obtain rfl := Except.ok.inj h
  cases htoken : g.access.bearerToken.isPresent with
  | true => exact ⟨_, by simp only [Session.start, Access.settings, Access.authentication, htoken, if_true]; rfl⟩
  | false => exact ⟨_, by simp only [Session.start, Access.settings, Access.authentication, htoken]; rfl⟩

/-- A configuration is valid just if its session can be opened and its pagers can be made. -/
theorem isValid_iff {g : Gateway} :
    g.IsValid ↔ (∃ s, g.settings.bind Session.start = .ok s) ∧ ∃ p, g.newPager = .ok p := by
  constructor
  · rintro ⟨⟨timeout, htimeout⟩, ⟨retries, hretries⟩, ⟨backoff, hbackoff⟩, ⟨strategy, hstrategy⟩⟩
    refine ⟨?_, _, newPager_eq_ok_iff.2 ⟨strategy, hstrategy, rfl⟩⟩
    obtain ⟨settings, hsettings⟩ : ∃ settings, g.settings = .ok settings := by
      rw [settings, htimeout, hretries, hbackoff]
      exact ⟨_, rfl⟩
    rw [hsettings]
    exact exists_start_of_settings hsettings
  · rintro ⟨⟨s, hs⟩, p, hp⟩
    obtain ⟨settings, h, -⟩ := Fault.exists_of_bind_eq_ok hs
    obtain ⟨timeout, htimeout, h⟩ := Fault.exists_of_bind_eq_ok h
    obtain ⟨retries, hretries, h⟩ := Fault.exists_of_bind_eq_ok h
    obtain ⟨backoff, hbackoff, -⟩ := Fault.exists_of_bind_eq_ok h
    obtain ⟨strategy, hstrategy, -⟩ := newPager_eq_ok_iff.1 hp
    exact ⟨⟨timeout, htimeout⟩, ⟨retries, hretries⟩, ⟨backoff, hbackoff⟩, ⟨strategy, hstrategy⟩⟩

/-! ## One request -/

theorem afterUse_of_error {g : Gateway} {fault : Fault} (h : g.session = .error fault) : g.afterUse = g := by
  have hclosed : g.opened = none := by
    unfold session at h
    split at h
    · contradiction
    · assumption
  rw [afterUse, h]
  exact congrArg (fun opened => { g with opened }) hclosed.symm

@[simp] theorem session_afterUse (g : Gateway) : g.afterUse.session = g.session := by
  cases h : g.session with
  | error fault => rw [afterUse_of_error h, h]
  | ok opened => rw [session, afterUse, h]; rfl

/-- What a gateway offers for a resource: the pager that is kept, or else a new one, with the session. -/
def offered (g : Gateway) (name : String) : Except Fault Obtained := do
  let session ← g.session
  match g.pagers.find? (.text name) with
  | some entry => return ⟨session, entry.2, true⟩
  | none => return ⟨session, ← g.newPager, false⟩

/-- The gateway that keeps a pager as the most recently used one, among so many. -/
def keeping (g : Gateway) (name : String) (pager : Pager) (n : Nat) : Gateway :=
  { g.afterUse with pagers := (g.pagers.touch (.text name) pager).rtake n }

/-- What a request for a pager does to a gateway that keeps so many of them. -/
theorem pager_eq {g : Gateway} {n : Nat} (hmax : g.maxPagers = .int n) (hlength : g.pagers.length ≤ n)
    (name : String) :
    g.pager name = (g.offered name,
      match g.offered name with
      | .ok obtained => g.keeping name obtained.pager n
      | .error _ => g.afterUse) := by
  unfold pager pagerUnder offered
  cases hsession : g.session with
  | error fault =>
    rw [afterUse_of_error hsession]
    rfl
  | ok session =>
    have hpagers : g.afterUse.pagers = g.pagers := rfl
    cases hfind : g.pagers.find? (.text name) with
    | some entry =>
      have hkeep : (g.pagers.touch (.text name) entry.2).rtake n = g.pagers.touch (.text name) entry.2 :=
        rtake_of_length_le ((Recent.length_touch_le_of_isSome (by rw [hfind]; rfl) _).trans hlength)
      obtain ⟨key, kept⟩ := entry
      obtain rfl : key = .text name := Recent.key_of_find? hfind
      simp only [hpagers, hfind]
      change _ = (_, g.keeping name kept n)
      rw [keeping, hkeep]
      rfl
    | none =>
      simp only [hpagers, hfind]
      have hmade : Pager.ofArguments (.int g.afterUse.access.pageSize) g.afterUse.access.countStrategy = g.newPager :=
        rfl
      rw [hmade]
      cases hnew : g.newPager with
      | error fault => rfl
      | ok kept =>
        have htrim : ∀ count : Nat, g.afterUse.maxPagers.less (.int count) = .ok (decide (n < count)) := by
          intro count
          rw [show g.afterUse.maxPagers = .int n from hmax, Value.less_int]
          simp
        simp only [adopt, Recent.trim_eq htrim]
        rfl

/-! ## What a run keeps -/

theorem IsValid.of_close {g h : Gateway} (hclose : h.close = g.close) (hvalid : g.IsValid) : h.IsValid := by
  have haccess : h.access = g.access := congrArg (·.access) hclose
  have henvironment : h.environment = g.environment := congrArg (·.environment) hclose
  exact ⟨henvironment ▸ hvalid.timeout, henvironment ▸ hvalid.retries, henvironment ▸ hvalid.backoff,
    haccess ▸ hvalid.strategy⟩

theorem IsValid.exists_session {g : Gateway} (hvalid : g.IsValid) : ∃ s, g.session = .ok s := by
  unfold session
  split
  · exact ⟨_, rfl⟩
  · exact (isValid_iff.1 hvalid).1

/-- A valid gateway offers what it keeps, or else a new pager. -/
theorem IsValid.offered_cases {g : Gateway} (hvalid : g.IsValid) (name : String) :
    ∃ session, (∃ pager, g.pagers.find? (.text name) = some (.text name, pager) ∧
        g.offered name = .ok ⟨session, pager, true⟩) ∨
      g.pagers.find? (.text name) = none ∧
        ∃ pager, g.newPager = .ok pager ∧ g.offered name = .ok ⟨session, pager, false⟩ := by
  obtain ⟨session, hsession⟩ := hvalid.exists_session
  obtain ⟨-, pager, hpager⟩ := isValid_iff.1 hvalid
  refine ⟨session, ?_⟩
  unfold offered
  rw [hsession]
  cases hfind : g.pagers.find? (.text name) with
  | some entry =>
    have hkey : entry.1 = .text name := Recent.key_of_find? hfind
    exact .inl ⟨entry.2, congrArg some (Prod.ext hkey rfl), rfl⟩
  | none =>
    rw [hpager]
    exact .inr ⟨rfl, pager, rfl, rfl⟩

theorem IsValid.exists_offered {g : Gateway} (hvalid : g.IsValid) (name : String) :
    ∃ obtained, g.offered name = .ok obtained := by
  obtain ⟨session, ⟨pager, -, hoffered⟩ | ⟨-, pager, -, hoffered⟩⟩ := hvalid.offered_cases name
  · exact ⟨_, hoffered⟩
  · exact ⟨_, hoffered⟩

theorem after_concat (g : Gateway) (uses : List PagerUse) (use : PagerUse) :
    g.after (uses ++ [use]) = (g.after uses).use use := by
  rw [after, List.foldl_append]
  rfl

end Gateway

namespace PagerUse

theorem requested_concat (uses : List PagerUse) (use : PagerUse) :
    requested (uses ++ [use]) =
      match use with
      | request name => requested uses ++ [name]
      | change .. => requested uses
      | close => [] := by
  rw [requested, List.foldl_append]
  rfl

theorem stateAfter_concat (name : String) (p : Pager) (uses : List PagerUse) (use : PagerUse) :
    stateAfter name p (uses ++ [use]) = stateAfter name (stateAfter name p uses) [use] := by
  rw [stateAfter, List.foldl_append]
  rfl

theorem request_mem_of_mem_requested {name : String} {uses : List PagerUse} (h : name ∈ requested uses) :
    request name ∈ uses := by
  induction uses using List.reverseRecOn with
  | nil => contradiction
  | append_singleton uses use ih =>
    rw [requested_concat] at h
    cases use with
    | request other =>
      rcases List.mem_append.1 h with h | h
      · exact List.mem_append_left _ (ih h)
      · rw [List.mem_singleton.1 h]
        exact List.mem_append_right _ (List.mem_singleton_self _)
    | change other p => exact List.mem_append_left _ (ih h)
    | close => contradiction

theorem requested_append (uses : List PagerUse) {later : List PagerUse} (h : close ∉ later) :
    requested (uses ++ later) = requested uses ++ requested later := by
  induction later using List.reverseRecOn with
  | nil => simp [requested]
  | append_singleton later use ih =>
    rw [List.mem_append, not_or] at h
    rw [← List.append_assoc, requested_concat, requested_concat, ih h.1]
    cases use with
    | request name => exact List.append_assoc _ _ _
    | change name p => rfl
    | close => exact absurd (List.mem_singleton_self _) h.2

/-- What was requested before the gateway was closed does not count. -/
theorem requested_append_of_close (uses : List PagerUse) {later : List PagerUse} (h : close ∈ later) :
    requested (uses ++ later) = requested later := by
  induction later using List.reverseRecOn with
  | nil => contradiction
  | append_singleton later use ih =>
    rw [← List.append_assoc, requested_concat, requested_concat]
    cases use with
    | request name => rw [ih (by simpa using h)]
    | change name p => exact ih (by simpa using h)
    | close => rfl

end PagerUse

namespace Gateway

variable {g h : Gateway} {n : Nat} {names : List String} {name : String}

/-- Whether a gateway keeps the pagers of the names that were requested last, and has not changed otherwise. -/
structure Keeps (g : Gateway) (n : Nat) (h : Gateway) (names : List String) : Prop where
  close_eq : h.close = g.close
  keys : h.pagers.keys = (names.dedup.rtake n).map .text

namespace Keeps

theorem of_empty (hclose : h.close = g.close) (hempty : h.pagers = []) : Keeps g n h [] :=
  ⟨hclose, by rw [hempty]; simp [Recent.keys]⟩

theorem maxPagers (hkeeps : Keeps g n h names) (hmax : g.maxPagers = .int n) : h.maxPagers = .int n :=
  (congrArg (·.maxPagers) hkeeps.close_eq).trans hmax

theorem length_le (hkeeps : Keeps g n h names) : h.pagers.length ≤ n := by
  rw [← Recent.length_keys, hkeeps.keys, List.length_map, length_rtake]
  exact min_le_left _ _

theorem nodup (hkeeps : Keeps g n h names) : h.pagers.keys.Nodup := by
  rw [hkeeps.keys]
  refine List.Nodup.map (fun a b heq => ?_) (names.nodup_dedup.sublist (rtake_suffix _ n).sublist)
  simpa using heq

theorem isSome_find?_iff (hkeeps : Keeps g n h names) (name : String) :
    (h.pagers.find? (.text name)).isSome = true ↔ name ∈ names.dedup.rtake n := by
  rw [Recent.isSome_find?_iff, hkeeps.keys]
  simp

/-- One more request keeps its pager as that of the last name. -/
theorem keeping (hkeeps : Keeps g n h names) (name : String) (pager : Pager) :
    Keeps g n (h.keeping name pager n) (names ++ [name]) := by
  refine ⟨hkeeps.close_eq, ?_⟩
  have hothers : ((names.dedup.rtake n).map Scalar.text).filter (· ≠ .text name) =
      ((names.dedup.rtake n).filter (· ≠ name)).map Scalar.text := by
    rw [List.filter_map]
    congr 1
    exact List.filter_congr fun other _ => by simp
  calc (h.keeping name pager n).pagers.keys
      = (h.pagers.touch (.text name) pager).keys.rtake n := Recent.keys_rtake n
    _ = (((names.dedup.rtake n).filter (· ≠ name) ++ [name]).map Scalar.text).rtake n := by
        rw [Recent.keys_touch, hkeeps.keys, hothers, List.map_append]
        rfl
    _ = ((names ++ [name]).dedup.rtake n).map .text := by
        rw [rtake_map, rtake_filter_concat names.nodup_dedup, dedup_concat]

/-- What is kept behind a request is what was touched by it. -/
theorem find?_touch_of_keeping (hkeeps : Keeps g n h names) {other : String} {pager kept : Pager}
    (hfind : (h.keeping other pager n).pagers.find? (.text name) = some (.text name, kept)) :
    Recent.find? (h.pagers.touch (.text other) pager) (.text name) = some (.text name, kept) :=
  Recent.find?_of_mem (Recent.nodup_keys_touch hkeeps.nodup pager)
    ((rtake_suffix _ n).subset (Recent.mem_of_find? hfind))

end Keeps

/-- A gateway keeps the pagers of the resources that were requested last. -/
theorem keeps_after (hvalid : g.IsValid) (hmax : g.maxPagers = .int n) (hnew : g.pagers = [])
    (uses : List PagerUse) : Keeps g n (g.after uses) (PagerUse.requested uses) := by
  induction uses using List.reverseRecOn with
  | nil => exact .of_empty rfl hnew
  | append_singleton uses use ih =>
    rw [after_concat, PagerUse.requested_concat]
    cases use with
    | request name =>
      obtain ⟨obtained, hoffered⟩ := (hvalid.of_close ih.close_eq).exists_offered name
      rw [Gateway.use, pager_eq (ih.maxPagers hmax) ih.length_le, hoffered]
      exact ih.keeping name obtained.pager
    | change name pager => exact ⟨ih.close_eq, (Recent.keys_update _ _).trans ih.keys⟩
    | close => exact .of_empty ih.close_eq rfl

/-- A pager that is kept behind a use that does not request it was kept before, in the state that the use brought it
to. -/
theorem find?_of_use (hkeeps : Keeps g n h names) (hvalid : h.IsValid) (hmax : h.maxPagers = .int n)
    {use : PagerUse} (huse : use ≠ .request name) {kept : Pager}
    (hfind : (h.use use).pagers.find? (.text name) = some (.text name, kept)) :
    ∃ pager, h.pagers.find? (.text name) = some (.text name, pager) ∧
      kept = PagerUse.stateAfter name pager [use] := by
  cases use with
  | request other =>
    obtain ⟨obtained, hoffered⟩ := hvalid.exists_offered other
    rw [Gateway.use, pager_eq hmax hkeeps.length_le, hoffered] at hfind
    have htouched := hkeeps.find?_touch_of_keeping hfind
    rw [Recent.find?_touch_of_ne (by simpa using huse)] at htouched
    exact ⟨kept, htouched, rfl⟩
  | change other pager =>
    by_cases hname : other = name
    · subst hname
      rw [Gateway.use, store, Recent.find?_update_self] at hfind
      obtain ⟨entry, hentry, heq⟩ := Option.map_eq_some_iff.1 hfind
      obtain ⟨hkey, rfl⟩ := Prod.mk.inj heq
      refine ⟨entry.2, hentry.trans (congrArg some (Prod.ext hkey rfl)), ?_⟩
      simp [PagerUse.stateAfter]
    · rw [Gateway.use, store, Recent.find?_update_of_ne hname] at hfind
      refine ⟨kept, hfind, ?_⟩
      simp [PagerUse.stateAfter, hname]
  | close => contradiction

/-- A pager that is kept at the end of a run that does not request it was kept all the time. -/
theorem find?_of_after (hvalid : g.IsValid) (hmax : g.maxPagers = .int n) (hnew : g.pagers = [])
    {earlier between : List PagerUse} (hbetween : .request name ∉ between) {kept : Pager}
    (hfind : (g.after (earlier ++ between)).pagers.find? (.text name) = some (.text name, kept)) :
    ∃ pager, (g.after earlier).pagers.find? (.text name) = some (.text name, pager) ∧
      kept = PagerUse.stateAfter name pager between := by
  induction between using List.reverseRecOn generalizing kept with
  | nil => exact ⟨kept, by rwa [List.append_nil] at hfind, rfl⟩
  | append_singleton between use ih =>
    rw [List.mem_append, not_or, List.mem_singleton] at hbetween
    have hkeeps := keeps_after hvalid hmax hnew (earlier ++ between)
    rw [← List.append_assoc, after_concat] at hfind
    obtain ⟨middle, hmiddle, rfl⟩ := find?_of_use hkeeps (hvalid.of_close hkeeps.close_eq) (hkeeps.maxPagers hmax)
      (Ne.symm hbetween.2) hfind
    obtain ⟨pager, hpager, rfl⟩ := ih hbetween.1 hmiddle
    exact ⟨pager, hpager, (PagerUse.stateAfter_concat ..).symm⟩

/-- What a gateway offers after a run: the pager that it keeps for the resource if this is among those that were
requested last, and else a new one. -/
theorem offered_after (hvalid : g.IsValid) (hmax : g.maxPagers = .int n) (hnew : g.pagers = [])
    (uses : List PagerUse) (name : String) :
    ∃ obtained, (g.after uses).offered name = .ok obtained ∧ ((g.after uses).pager name).1 = .ok obtained ∧
      (obtained.reused = true ↔ name ∈ (PagerUse.requested uses).dedup.rtake n) ∧
      (obtained.reused = true → (g.after uses).pagers.find? (.text name) = some (.text name, obtained.pager)) ∧
      (obtained.reused = false → g.newPager = .ok obtained.pager) := by
  have hkeeps := keeps_after hvalid hmax hnew uses
  have hrequest := pager_eq (hkeeps.maxPagers hmax) hkeeps.length_le name
  have hnewPager : (g.after uses).newPager = g.newPager := by
    rw [newPager, newPager, show (g.after uses).access = g.access from congrArg (·.access) hkeeps.close_eq]
  obtain ⟨session, hcases⟩ := (hvalid.of_close hkeeps.close_eq).offered_cases name
  simp only [← hkeeps.isSome_find?_iff]
  rcases hcases with ⟨pager, hfind, hoffered⟩ | ⟨hfind, pager, hpager, hoffered⟩
  · exact ⟨_, hoffered, by rw [hrequest, hoffered], by simp [hfind], fun _ => hfind, nofun⟩
  · exact ⟨_, hoffered, by rw [hrequest, hoffered], by simp [hfind], nofun,
      fun _ => hnewPager ▸ hpager⟩

/-- **A gateway keeps the pagers that were requested last.** Their names, the least recently requested one first, are
the last ones of the names requested since the gateway was closed. A request reuses the pager that the previous one for
the resource came to, in the state that this pager is in now, just if the gateway was not closed in between and fewer
other resources were requested than pagers are kept; otherwise its pager is a new one. -/
theorem pagers_of_uses (hvalid : g.IsValid) (hmax : g.maxPagers = .int n) (hnew : g.pagers = [])
    (uses : List PagerUse) :
    (g.after uses).pagers.keys = ((PagerUse.requested uses).dedup.rtake n).map .text ∧
    ∀ name, ∃ obtained, ((g.after uses).pager name).1 = .ok obtained ∧
      (obtained.reused = false → g.newPager = .ok obtained.pager) ∧
      (.request name ∉ uses → obtained.reused = false) ∧
      ∀ earlier between, uses = earlier ++ .request name :: between → .request name ∉ between →
        (obtained.reused = true ↔ .close ∉ between ∧ (PagerUse.requested between).dedup.length < n) ∧
        ∃ previous, ((g.after earlier).pager name).1 = .ok previous ∧
          (obtained.reused = true → obtained.pager = PagerUse.stateAfter name previous.pager between) := by
  refine ⟨(keeps_after hvalid hmax hnew uses).keys, fun name => ?_⟩
  obtain ⟨obtained, -, hobtained, hreused, hkept, hfresh⟩ := offered_after hvalid hmax hnew uses name
  refine ⟨obtained, hobtained, hfresh, fun hnever => ?_, ?_⟩
  · have hnone := mt hreused.1 fun hmem => hnever <|
      PagerUse.request_mem_of_mem_requested (List.mem_dedup.1 ((rtake_suffix _ n).subset hmem))
    simpa using hnone
  rintro earlier between rfl hbetween
  have hother : name ∉ PagerUse.requested between := mt PagerUse.request_mem_of_mem_requested hbetween
  rw [List.append_cons] at hreused hkept
  refine ⟨?_, ?_⟩
  · by_cases hclose : .close ∈ between
    · rw [PagerUse.requested_append_of_close _ hclose] at hreused
      refine iff_of_false (mt hreused.1 fun hmem => ?_) fun h => h.1 hclose
      exact hother (List.mem_dedup.1 ((rtake_suffix _ n).subset hmem))
    · rw [PagerUse.requested_append _ hclose, PagerUse.requested_concat, List.append_assoc,
        List.singleton_append, mem_rtake_dedup_iff hother] at hreused
      exact hreused.trans (and_iff_right hclose).symm
  · obtain ⟨previous, hoffered, hprevious, -⟩ := offered_after hvalid hmax hnew earlier name
    refine ⟨previous, hprevious, fun hsame => ?_⟩
    obtain ⟨pager, hpager, heq⟩ := find?_of_after hvalid hmax hnew hbetween (hkept hsame)
    have hkeeps := keeps_after hvalid hmax hnew earlier
    rw [after_concat, Gateway.use, pager_eq (hkeeps.maxPagers hmax) hkeeps.length_le, hoffered] at hpager
    have htouched := hkeeps.find?_touch_of_keeping hpager
    rw [Recent.find?_touch_self] at htouched
    rw [heq, (Prod.mk.inj (Option.some.inj htouched)).2]

/-- A new gateway to the service at a root address, with the default settings and room for so many pagers. -/
def standard (base : String) (maxPagers : Nat) : Gateway where
  access :=
    { serviceUrl := base
      user := .text ""
      password := .text ""
      bearerToken := .text "token"
      verify := .bool true
      pageSize := 25
      countStrategy := .text "inlinecount" }
  apiKey := .text "key"
  maxPageSize := .int 500
  cacheLifetime := .int 900
  maxPagers := .int maxPagers
  environment := []

theorem isValid_standard (base : String) (maxPagers : Nat) : (standard base maxPagers).IsValid where
  timeout := ⟨_, show (Value.text "60").toBinary64 = .ok _ from rfl⟩
  retries := ⟨3, show (Value.text "3").toInt = .ok 3 from Fault.eq_ok_of_toOption (by decide)⟩
  backoff := ⟨.ofDecimal false 5 (-1),
    show (Value.text "0.5").toBinary64 = .ok _ from Fault.eq_ok_of_toOption (by decide)⟩
  strategy := ⟨.inlinecount, show CountStrategy.parse (.text "inlinecount") none = .ok _ from
    Fault.eq_ok_of_toOption (by decide)⟩

/-- Of three resources, a gateway that keeps two pagers has forgotten the one that was requested least recently. The
pager of another one is still in the state that it came to. -/
theorem pagers_of_uses_of_three :
    let g := standard "https://host/svc" 2
    let p := Pager.start 10 .none
    let earlier := [.request "A", .change "A" p, .request "B"]
    let uses := earlier ++ [.request "A", .request "C"]
    g.IsValid ∧ g.maxPagers = .int (2 : Nat) ∧ g.pagers = [] ∧
    (g.after uses).pagers.keys = [.text "A", .text "C"] ∧
    (∃ obtained, ((g.after uses).pager "A").1 = .ok obtained ∧ obtained.reused = true ∧ obtained.pager = p) ∧
    ∃ obtained, ((g.after uses).pager "B").1 = .ok obtained ∧ obtained.reused = false ∧
      g.newPager = .ok obtained.pager := by
  intro g p earlier uses
  have hvalid : g.IsValid := isValid_standard _ _
  have hmax : g.maxPagers = .int (2 : Nat) := rfl
  have hnew : g.pagers = [] := rfl
  obtain ⟨hkeys, hpagers⟩ := pagers_of_uses hvalid hmax hnew uses
  refine ⟨hvalid, hmax, hnew, hkeys.trans (by decide +kernel), ?_, ?_⟩
  · obtain ⟨obtained, hobtained, -, -, hlater⟩ := hpagers "A"
    obtain ⟨hreused, previous, hprevious, hstate⟩ := hlater earlier [.request "C"] rfl (by simp)
    have hsame : obtained.reused = true := hreused.2 ⟨by simp, by decide⟩
    -- The state of the pager is that of the request before, which is that of the change.
    obtain ⟨first, hfirst, -, -, hbefore⟩ := (pagers_of_uses hvalid hmax hnew earlier).2 "A"
    obtain ⟨hreused', _, -, hstate'⟩ := hbefore [] [.change "A" p, .request "B"] rfl (by simp)
    obtain rfl : first = previous := Except.ok.inj (hfirst.symm.trans hprevious)
    exact ⟨obtained, hobtained, hsame, (hstate hsame).trans (hstate' (hreused'.2 ⟨by simp, by decide⟩))⟩
  · obtain ⟨obtained, hobtained, hfresh, -, hlater⟩ := hpagers "B"
    obtain ⟨hreused, -⟩ := hlater [.request "A", .change "A" p] [.request "A", .request "C"] rfl (by simp)
    have hforgotten : obtained.reused = false := by
      rw [Bool.eq_false_iff]
      exact fun h => absurd (hreused.1 h).2 (by decide)
    exact ⟨obtained, hobtained, hforgotten, hfresh hforgotten⟩

end Gateway

end ODataBrowser
