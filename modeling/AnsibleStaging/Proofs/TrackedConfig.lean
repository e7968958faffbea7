import AnsibleStaging.Connect.Collaborators
import AnsibleStaging.Proofs.Requests
import AnsibleStaging.Proofs.World

/-! No configuration is read untracked. When usage, configurations and secrets are all asked of one server, the requests
    of a connect begin with the record of a usage, then comes the read of the configuration that the record names, as far
    as its name goes in a path, and only secrets are read after it: each of these steps asks at most once, and the read
    is not reached unless the server has taken the record. Without a name of a configuration there is nothing to record,
    and nothing is asked at all. -/

namespace AnsibleStaging
open Script ApiServer

/-! ### Collaborators behind one server -/

variable {σ ε α : Type}

/-- Notes each request with its answer. --/
def ApiServer.noting (server : Handler api σ) : Handler api (σ × Requests) := fun request s =>
  ((server request s.1).1, (server request s.1).2, s.2 ++ [⟨request, (server request s.1).1⟩])

theorem run_noting (server : Handler api σ) (t : Script api ε α) (s : σ) (l : Requests) :
    t.run (noting server) (s, l) = ((t.run server s).1, (t.run server s).2, l ++ t.exchanges server s) := by
  induction t generalizing s l with
  | done a => simp [Script.run, Script.exchanges]
  | fail e => simp [Script.run, Script.exchanges]
  | ask c next ih =>
    cases hr : (server c s).1 with
    | none =>
      have hn : (noting server c (s, l)).1 = none := hr
      rw [run_ask_none hr, run_ask_none hn, exchanges_ask_none hr, noting, hr]
    | some r =>
      have hn : (noting server c (s, l)).1 = some r := hr
      rw [run_ask hr, run_ask hn, exchanges_ask hr, noting, ih, hr, List.append_assoc]
      rfl

namespace Collaborators

/-- Work that leaves the notes as they are. --/
def aside (f : σ → α × σ) (s : σ × Requests) : α × σ × Requests := ((f s.1).1, (f s.1).2, s.2)

/-- The same collaborators, where usage, configurations and secrets are asked of a server, whose requests are noted. --/
def through (w : Collaborators σ) (server : Handler api σ) : Collaborators (σ × Requests) where
  cancelled s := w.cancelled s.1
  files := ⟨fun p m => aside (w.files.makeDirs p m), fun p d m => aside (w.files.write p d m),
    fun p => aside (w.files.read p)⟩
  secret key := (getKey key).run (noting server)
  track r := (ApiServer.track r).run (noting server)
  providerConfig name := (getProviderConfig name).run (noting server)
  fetch locator := aside (w.fetch locator)
  tools dir s := (w.tools dir s.1, s.2)
  initRunner dir run config := aside (w.initRunner dir run config)
  installGalaxy dir config := aside (w.installGalaxy dir config)

end Collaborators

/-- What a call of a connect asks of the server. --/
def Asks : AnsibleStaging.Exchange calls → Requests → Prop
  | ⟨.secret key, r⟩, m => (getKey key).Follows m r
  | ⟨.track res, r⟩, m => (ApiServer.track res).Follows m r
  | ⟨.providerConfig name, r⟩, m => (getProviderConfig name).Follows m r
  | _, m => m = []

/-- What a service asks is noted after what was asked before. --/
theorem follows_of_run {server : Handler api σ} {t : Script api ε α} {s s' : σ × Requests} {r : Option (Except ε α)}
    (h : t.run (noting server) s = (r, s')) : ∃ m, s'.2 = s.2 ++ m ∧ t.Follows m r := by
  rw [run_noting server t s.1 s.2, Prod.mk.injEq] at h
  obtain ⟨rfl, rfl⟩ := h
  exact ⟨_, rfl, follows_exchanges server t s.1⟩

theorem asks_of_gives {w : Collaborators σ} {server : Handler api σ} {x : AnsibleStaging.Exchange calls}
    {s s' : σ × Requests} (h : (w.through server).handler.Gives x s s') : ∃ m, s'.2 = s.2 ++ m ∧ Asks x m := by
  obtain ⟨c, r⟩ := x
  cases c with
  | secret key => exact follows_of_run h
  | track res => exact follows_of_run h
  | providerConfig name => exact follows_of_run h
  | _ =>
    have hs : s'.2 = s.2 := congrArg (·.2.2) h.symm
    exact ⟨[], by rw [hs, List.append_nil], rfl⟩

/-! ### The beginning of a connect -/

/-- The call records no usage and asks for no configuration. --/
def Call.isOwn : Call → Bool
  | .track _ => false
  | .providerConfig _ => false
  | _ => true

section
variable (c : Connector) (run : AnsibleRun)

def directoryMade : AnsibleStaging.Exchange calls := ⟨.makeDirs (c.runDir run) .privateDirectory, some (.ok ())⟩

def usageTracked : AnsibleStaging.Exchange calls := ⟨.track (.run run), some (.ok ())⟩

/-- The calls of a connect in three steps, of which each begins when the one before it has ended well, and what comes
    after them. --/
inductive Begins : Record → Option Step → Prop
  | directory {made : Record} (hm : asked made <+: [.makeDirs (c.runDir run) .privateDirectory]) :
      Begins made (some .directory)
  | usage {made : Record} (hm : asked made <+: [.track (.run run)]) : Begins (directoryMade c run :: made) (some .usage)
  | config {made : Record} (hm : asked made <+: [.providerConfig (run.providerConfig.getD "")]) :
      Begins (directoryMade c run :: usageTracked run :: made) (some .config)
  | beyond {config : ProviderConfig} {rest : Record} (hrest : ∀ x ∈ rest, x.call.isOwn = true) :
      Begins (directoryMade c run :: usageTracked run ::
        ⟨.providerConfig (run.providerConfig.getD ""), some (.ok config)⟩ :: rest) none

end

section
variable {c : Connector} {run : AnsibleRun}

theorem own_lookup {source : CredentialsSource} {selectors : Selectors} {data : ByteArray}
    {x : AnsibleStaging.Exchange calls}
    (hx : x ∈ lookup source selectors data) : x.call.isOwn = true := by
  unfold lookup at hx
  split at hx
  · split at hx
    · rw [List.mem_singleton.mp hx]
      rfl
    · cases hx
  · split at hx
    · rw [List.mem_singleton.mp hx]
      rfl
    · cases hx
  · cases hx

/-- After the configuration is known, only secrets are asked for at the control plane. --/
theorem exists_plan_record (c : Connector) (run : AnsibleRun) (v : Supply) : ∃ rest, (c.plan run v).record =
    directoryMade c run :: usageTracked run :: ⟨.providerConfig (run.providerConfig.getD ""), some (.ok v.config)⟩ :: rest ∧
      ∀ x ∈ rest, x.call.isOwn = true := by
  refine ⟨v.resolved.flatMap (entryRecord (c.runDir run)) ++ ((c.playbookPlan run (c.runDir run) (latestGit none v.resolved)
    v.config.settings.git v.token v.gitContent v.fetched).record ++ ((Connector.requirementsPlan (c.runDir run) v.config).record ++
      (Connector.runnerPlan (c.runDir run) run v.config v.runner).record)), ?_, fun x hx => ?_⟩
  · rw [Connector.plan, Plan.record_append, Connector.filesPlan_record, List.append_assoc, List.append_assoc, List.append_assoc]
    rfl
  rw [Connector.playbookPlan_record, Connector.requirementsPlan_record, Connector.runnerPlan_record] at hx
  simp only [List.mem_append] at hx
  rcases hx with hx | (hx | hx) | hx | hx
  · obtain ⟨y, -, hx⟩ := List.mem_flatMap.mp hx
    rcases List.mem_append.mp hx with hx | hx
    · exact own_lookup hx
    · rw [List.mem_singleton.mp hx]
      rfl
  · split at hx
    · cases hx
    · simp only [List.mem_append, List.mem_singleton] at hx
      rcases hx with (hx | rfl) | rfl
      · unfold tokenLookup at hx
        split at hx
        · exact own_lookup hx
        · cases hx
      · rfl
      · rfl
  · rw [List.mem_singleton.mp hx]
    rfl
  · obtain ⟨text, -, rfl⟩ := List.mem_map.mp hx
    rfl
  · simp only [List.mem_cons, List.not_mem_nil, or_false] at hx
    rcases hx with rfl | rfl | rfl <;> rfl

/-- How a connect ends in a step, or where the caller has cancelled. --/
def EndsBy (step : Step) (l : Record) (o : Option (Except ConnectError Connection)) : Prop :=
  (o = some (.error .cancelled) ∧ (⟨.cancelled, some true⟩ : AnsibleStaging.Exchange calls) ∈ l) ∨ o = none ∨
    ∃ e, o = some (.error e) ∧ e.kindName ∈ step.kinds

theorem exists_begins {l : Record} {o : Option (Except ConnectError Connection)} (h : (c.stage run).Follows l o) :
    ∃ at?, Begins c run (external l) at? ∧ ∀ step ∈ at?, EndsBy step l o := by
  obtain ⟨v, hgoes⟩ := exists_goesAlong h
  obtain ⟨rest, hrecord, hrest⟩ := exists_plan_record c run v
  have hin := hgoes.in_order
  -- What comes after the configuration keeps to the rest of the plan.
  have beyond : ∀ rest', external l = directoryMade c run :: usageTracked run ::
      ⟨.providerConfig (run.providerConfig.getD ""), some (.ok v.config)⟩ :: rest' → Begins c run (external l) none := by
    intro rest' hl
    rw [hl]
    rw [hl, hrecord] at hin
    simp only [asked, List.map_cons, List.cons_prefix_cons, true_and] at hin
    refine .beyond fun x hx => ?_
    obtain ⟨y, hy, hyx⟩ := List.mem_map.mp (hin.subset (List.mem_map_of_mem hx))
    exact hyx ▸ hrest y hy
  obtain ⟨-, ⟨-, rfl, -⟩ | ⟨e, hb, rfl⟩⟩ := hgoes
  · refine ⟨none, beyond rest ?_, nofun⟩
    rw [external_log (allExternal_plan c run v), hrecord]
  · obtain ⟨step, ⟨before, after, xs, made, hplan, hl, hm⟩, he⟩ := endsIn_of_breaks (allExternal_plan c run v) hb
    have hends : EndsBy step l (e.map .error) := by
      rcases he with ⟨rfl, hfired⟩ | he
      · exact Or.inl ⟨rfl, hfired⟩
      · cases e with
        | none => exact Or.inr (Or.inl rfl)
        | some e => exact Or.inr (Or.inr ⟨e, rfl, he e rfl⟩)
    have steps : ∃ tail, c.plan run v = (.directory, [directoryMade c run]) :: (.usage, [usageTracked run]) ::
        (.config, [⟨.providerConfig (run.providerConfig.getD ""), some (.ok v.config)⟩]) :: tail := ⟨_, rfl⟩
    obtain ⟨tail, htail⟩ := steps
    rw [htail] at hplan
    match before, hplan, hl with
    | [], hplan, hl =>
      obtain ⟨⟨rfl, rfl⟩, -⟩ := by simpa using hplan
      exact ⟨some .directory, hl ▸ .directory hm, by simpa using hends⟩
    | [first], hplan, hl =>
      obtain ⟨rfl, ⟨rfl, rfl⟩, -⟩ := by simpa using hplan
      exact ⟨some .usage, hl ▸ .usage hm, by simpa using hends⟩
    | [first, second], hplan, hl =>
      obtain ⟨rfl, rfl, ⟨rfl, rfl⟩, -⟩ := by simpa using hplan
      exact ⟨some .config, hl ▸ .config hm, by simpa using hends⟩
    | first :: second :: third :: before, hplan, hl =>
      obtain ⟨rfl, rfl, rfl, -⟩ := by simpa using hplan
      exact ⟨none, beyond (Plan.record before ++ made) hl, nofun⟩

end

/-! ### The requests of a connect -/

/-- A call adds what it asks to the notes. --/
def AsksMore (x : AnsibleStaging.Exchange calls) (m m' : Requests) : Prop := ∃ n, m' = m ++ n ∧ Asks x n

theorem occurs_asksMore {w : Collaborators σ} {server : Handler api σ} {l : Record} {s s' : σ × Requests}
    (h : Occurs (w.through server).handler.Gives l s s') : Occurs AsksMore (external l) s.2 s'.2 := by
  have hview : Occurs AsksMore l s.2 s'.2 := h.view fun _ _ _ hg => asks_of_gives hg
  refine hview.filter ?_
  rintro x m _ hx ⟨n, rfl, hn⟩
  have hcheck : x.call.isCheck = true := by simpa using hx
  obtain ⟨call, reply⟩ := x
  obtain rfl := Call.eq_cancelled hcheck
  obtain rfl : n = [] := hn
  exact List.append_nil m

/-- The request reads something else than a configuration. --/
def ReadsAside (x : AnsibleStaging.Exchange api) : Prop := x.call.method = .get ∧ ¬x.call.ReadsConfig

theorem readsAside_of_asks {x : AnsibleStaging.Exchange calls} {m : Requests} (hx : x.call.isOwn = true) (h : Asks x m) :
    ∀ z ∈ m, ReadsAside z := by
  obtain ⟨call, reply⟩ := x
  cases call with
  | secret key =>
    rcases requesting_getKey key _ _ h with ⟨e, rfl, -⟩ | ⟨request, answer, hr, rfl, -⟩
    · nofun
    · intro z hz
      rw [List.mem_singleton.mp hz]
      exact ⟨(getRequest_ok hr).2.1, not_readsConfig_secret hr⟩
  | track r => cases hx
  | providerConfig name => cases hx
  | _ =>
    obtain rfl : m = [] := h
    nofun

theorem readsAside_of_occurs {l : Record} {m m' : Requests} (h : Occurs AsksMore l m m')
    (hl : ∀ x ∈ l, x.call.isOwn = true) : ∃ n, m' = m ++ n ∧ ∀ z ∈ n, ReadsAside z := by
  induction h with
  | nil m => exact ⟨[], (List.append_nil m).symm, nofun⟩
  | cons first _ ih =>
    obtain ⟨hx, hl⟩ := List.forall_mem_cons.mp hl
    obtain ⟨n, rfl, hn⟩ := first
    obtain ⟨n', rfl, hn'⟩ := ih hl
    refine ⟨n ++ n', List.append_assoc _ _ _, fun z hz => ?_⟩
    rcases List.mem_append.mp hz with hz | hz
    · exact readsAside_of_asks hx hn z hz
    · exact hn' z hz

/-- The server has taken the record that what has the uid uses a configuration. --/
structure RecordsUsage (uid config : String) (x : AnsibleStaging.Exchange api) : Prop where
  method : x.call.method = .patch
  applies : x.call.contentType = some "application/apply-patch+yaml"
  place : x.call.Names "providerconfigusages" (pathName uid)
  body : ∃ v, x.call.body = some v ∧ Records uid config v
  accepted : Accepted x

/-- The tracker asks for nothing, or it asks the server once to record the usage of a configuration that has a name. --/
theorem asks_track {run : AnsibleRun} {r : Option (Except ServiceError Unit)} {m : Requests}
    (h : Asks ⟨.track (.run run), r⟩ m) : (m = [] ∧ r ≠ some (.ok ())) ∨
      ∃ name x, run.providerConfig = some name ∧ name ≠ "" ∧ m = [x] ∧ ¬x.call.ReadsConfig ∧
        (r = some (.ok ()) → RecordsUsage run.uid.text name x) := by
  cases hname : namedConfig (.run run) with
  | error e =>
    change (ApiServer.track (.run run)).Follows m r at h
    rw [track_of_error hname] at h
    obtain ⟨rfl, rfl⟩ := follows_fail h
    exact Or.inl ⟨rfl, nofun⟩
  | ok name =>
    obtain ⟨hconfig, hne⟩ := namedConfig_ok hname
    rcases requesting_track hname _ _ h with ⟨e, rfl, rfl⟩ | ⟨request, reply, hr, rfl, hok⟩
    · exact Or.inl ⟨rfl, nofun⟩
    · refine Or.inr ⟨name, _, hconfig, hne, rfl, not_readsConfig_apply hr, fun ho => ?_⟩
      obtain ⟨hmethod, happlies, hbody, -⟩ := applyRequest_ok hr
      exact ⟨hmethod, happlies, names_applyRequest (by decide +kernel) hr, ⟨_, hbody, records_usage (.run run) name⟩,
        hok () ho⟩

theorem not_readsConfig_of_track {run : AnsibleRun} {r : Option (Except ServiceError Unit)} {m : Requests}
    (h : Asks ⟨.track (.run run), r⟩ m) : ∀ z ∈ m, ¬z.call.ReadsConfig := by
  rcases asks_track h with ⟨rfl, -⟩ | ⟨name, x, -, -, rfl, hx, -⟩
  · nofun
  · intro z hz
    rwa [List.mem_singleton.mp hz]

/-- The request asks for the configuration with the name, as far as the name goes in a path. So this name is the one that
    is asked for only if there is no mark of a query or a fragment in it. --/
structure AsksForConfig (name : String) (y : AnsibleStaging.Exchange api) : Prop where
  request : getRequest (collection "providerconfigs") name = .ok y.call
  names : y.call.Names "providerconfigs" (pathName name)
  whole : y.call.Names "providerconfigs" name ↔ ∀ ch ∈ name.toList, ch ≠ '?' ∧ ch ≠ '#'

theorem asks_providerConfig {name : String} {r : Option (Except ServiceError ProviderConfig)} {m : Requests}
    (h : Asks ⟨.providerConfig name, r⟩ m) :
    m = [] ∨ ∃ y, m = [y] ∧ AsksForConfig name y := by
  rcases requesting_getProviderConfig name _ _ h with ⟨e, rfl, -⟩ | ⟨request, reply, hr, rfl, -⟩
  · exact Or.inl rfl
  · have names : request.Names "providerconfigs" (pathName name) := names_getRequest (by decide +kernel) hr
    refine Or.inr ⟨_, rfl, hr, names, ?_⟩
    rw [← pathName_eq_self_iff]
    exact ⟨fun whole => names.unique whole, fun heq => heq ▸ names⟩

/-- Only the first of the requests is a record of a usage, and only the second one reads a configuration, under the name
    in the record. --/
def TrackedFirst (run : AnsibleRun) (requests : Requests) : Prop :=
  ∃ name x y after, requests = x :: y :: after ∧ run.providerConfig = some name ∧ name ≠ "" ∧
    RecordsUsage run.uid.text name x ∧ AsksForConfig name y ∧ ∀ z ∈ after, ReadsAside z

theorem asksMore_cons {x : AnsibleStaging.Exchange calls} {l : Record} {m m' : Requests}
    (h : Occurs AsksMore (x :: l) m m') : ∃ n, Asks x n ∧ Occurs AsksMore l (m ++ n) m' := by
  cases h with
  | cons first rest =>
    obtain ⟨n, rfl, hn⟩ := first
    exact ⟨n, hn, rest⟩

theorem asksMore_nil {m m' : Requests} (h : Occurs AsksMore [] m m') : m' = m := by
  cases h
  rfl

/-- Of one call at most one is made. --/
theorem made_cases {call : Call} {made : Record} (h : asked made <+: [call]) : made = [] ∨ ∃ r, made = [⟨call, r⟩] := by
  cases made with
  | nil => exact Or.inl rfl
  | cons x made =>
    obtain ⟨call', r⟩ := x
    obtain ⟨rfl, hrest⟩ := List.cons_prefix_cons.mp h
    obtain rfl := List.map_eq_nil_iff.mp (List.prefix_nil.mp hrest)
    exact Or.inr ⟨r, rfl⟩

/-- What a connect asks after the usage was recorded. --/
theorem trackedFirst_of_asks {run : AnsibleRun} {r : Option (Except ServiceError ProviderConfig)} {m m' n : Requests}
    (htrack : Asks (usageTracked run) m) (hget : Asks ⟨.providerConfig (run.providerConfig.getD ""), r⟩ m')
    (hn : ∀ z ∈ n, ReadsAside z) :
    (∀ z ∈ m ++ m' ++ n, ¬z.call.ReadsConfig) ∨ TrackedFirst run (m ++ m' ++ n) := by
  obtain ⟨-, ho⟩ | ⟨name, x, hname, hne, rfl, hx, hrecords⟩ := asks_track htrack
  · exact absurd rfl ho
  · rw [hname] at hget
    rcases asks_providerConfig hget with rfl | ⟨y, rfl, hy⟩
    · left
      intro z hz
      rcases List.mem_cons.mp hz with rfl | hz
      · exact hx
      · exact (hn z hz).2
    · exact Or.inr ⟨name, x, y, n, rfl, hname, hne, hrecords rfl, hy, hn⟩

/-- Either nothing reads a configuration, or the usage was recorded before. --/
theorem Begins.requests {c : Connector} {run : AnsibleRun} {l : Record} {at? : Option Step} {requests : Requests}
    (hl : Begins c run l at?) (h : Occurs AsksMore l [] requests) :
    (∀ z ∈ requests, ¬z.call.ReadsConfig) ∨ (directoryMade c run ∈ l ∧ TrackedFirst run requests) := by
  cases hl with
  | directory hm =>
    left
    rcases made_cases hm with rfl | ⟨r, rfl⟩
    · rw [asksMore_nil h]
      nofun
    · obtain ⟨_, rfl, h⟩ := asksMore_cons h
      rw [asksMore_nil h]
      nofun
  | usage hm =>
    left
    obtain ⟨_, rfl, h⟩ := asksMore_cons h
    rcases made_cases hm with rfl | ⟨r, rfl⟩
    · rw [asksMore_nil h]
      nofun
    · obtain ⟨m, htrack, h⟩ := asksMore_cons h
      rw [asksMore_nil h]
      exact not_readsConfig_of_track htrack
  | config hm =>
    obtain ⟨_, rfl, h⟩ := asksMore_cons h
    obtain ⟨m, htrack, h⟩ := asksMore_cons h
    rcases made_cases hm with rfl | ⟨r, rfl⟩
    · left
      rw [asksMore_nil h]
      exact not_readsConfig_of_track htrack
    · obtain ⟨m', hget, h⟩ := asksMore_cons h
      rw [asksMore_nil h]
      have := trackedFirst_of_asks (n := []) htrack hget nofun
      rw [List.append_nil] at this
      exact this.imp_right fun h => ⟨List.mem_cons_self, h⟩
  | beyond hrest =>
    obtain ⟨_, rfl, h⟩ := asksMore_cons h
    obtain ⟨m, htrack, h⟩ := asksMore_cons h
    obtain ⟨m', hget, h⟩ := asksMore_cons h
    obtain ⟨n, rfl, hn⟩ := readsAside_of_occurs h hrest
    exact (trackedFirst_of_asks htrack hget hn).imp_right fun h => ⟨List.mem_cons_self, h⟩

theorem TrackedFirst.split {run : AnsibleRun} {before after : Requests} {y : AnsibleStaging.Exchange api}
    (h : TrackedFirst run (before ++ y :: after)) (hy : y.call.ReadsConfig) : ∃ name x, before = [x] ∧
      run.providerConfig = some name ∧ name ≠ "" ∧ RecordsUsage run.uid.text name x ∧ AsksForConfig name y ∧
        ∀ z ∈ after, ReadsAside z := by
  obtain ⟨name, x, y', after', hrequests, hname, hne, hx, hy', hafter⟩ := h
  match before, hrequests with
  | [], hrequests =>
    obtain ⟨rfl, -⟩ := List.cons.inj hrequests
    cases hx.method.symm.trans hy.1
  | [b], hrequests =>
    obtain ⟨rfl, hrest⟩ := List.cons.inj hrequests
    obtain ⟨rfl, rfl⟩ := List.cons.inj hrest
    exact ⟨name, b, rfl, hname, hne, hx, hy', hafter⟩
  | b :: b' :: before, hrequests =>
    obtain ⟨-, hrest⟩ := List.cons.inj hrequests
    obtain ⟨-, rfl⟩ := List.cons.inj hrest
    exact absurd hy (hafter y (by simp)).2

/-! ### Without a name -/

/-- No request is made and nothing is written or fetched; the usage could not be recorded, unless the directory could
    not be made or the caller has cancelled. --/
structure Unasked (l : Record) (requests : Requests) (o : Option (Except ConnectError Connection)) : Prop where
  no_request : requests = []
  only : ∀ x ∈ l, x.call = .cancelled ∨ (∃ p m, x.call = .makeDirs p m) ∨ ∃ r, x.call = .track r
  ends : (∃ e, o = some (.error e) ∧ e.kindName = "TrackUsageFailed") ∨
    (∃ e, o = some (.error e) ∧ e.kindName = "MkdirFailed") ∨
    (o = some (.error .cancelled) ∧ (⟨.cancelled, some true⟩ : AnsibleStaging.Exchange calls) ∈ l)

section
variable {c : Connector} {run : AnsibleRun}

theorem asks_track_unnamed (h : run.providerConfig.getD "" = "") {r : Option (Except ServiceError Unit)} {m : Requests}
    (hm : Asks ⟨.track (.run run), r⟩ m) : m = [] ∧ r ≠ none ∧ r ≠ some (.ok ()) := by
  change (ApiServer.track (.run run)).Follows m r at hm
  rw [track_of_error (namedConfig_of_unnamed (r := .run run) h)] at hm
  obtain ⟨rfl, rfl⟩ := follows_fail hm
  exact ⟨rfl, nofun, nofun⟩

/-- What is asked before the usage is recorded. --/
inductive Early (run : AnsibleRun) (x : AnsibleStaging.Exchange calls) : Prop where
  | check (h : x.call = .cancelled)
  | directory (p : Path) (m : FileMode) (h : x.call = .makeDirs p m)
  | usage (h : x.call = .track (.run run)) (answered : x.reply ≠ none)

theorem Early.call {x : AnsibleStaging.Exchange calls} (h : Early run x) :
    x.call = .cancelled ∨ (∃ p m, x.call = .makeDirs p m) ∨ ∃ r, x.call = .track r := by
  cases h with
  | check h => exact Or.inl h
  | directory p m h => exact Or.inr (Or.inl ⟨p, m, h⟩)
  | usage h _ => exact Or.inr (Or.inr ⟨_, h⟩)

/-- All of it is answered. --/
theorem Early.reply_ne_none {w : Collaborators σ} {server : Handler api σ} {x : AnsibleStaging.Exchange calls}
    {s s' : σ × Requests} (hx : Early run x) (h : (w.through server).handler.Gives x s s') : x.reply ≠ none := by
  obtain ⟨call, r⟩ := x
  cases hx with
  | check hc =>
    subst hc
    exact fun hr => nomatch (congrArg Prod.fst h).trans hr
  | directory p m hc =>
    subst hc
    exact fun hr => nomatch (congrArg Prod.fst h).trans hr
  | usage _ answered => exact answered

/-- Without a name a connect does not get beyond the record of the usage. --/
theorem Begins.unnamed (h : run.providerConfig.getD "" = "") {l : Record} {at? : Option Step} {requests : Requests}
    (hl : Begins c run l at?) (hreq : Occurs AsksMore l [] requests) : requests = [] ∧
      (at? = some .directory ∨ at? = some .usage) ∧ ∀ x ∈ l, Early run x := by
  have tracked : ∀ {rest m}, Occurs AsksMore (usageTracked run :: rest) m requests → False := by
    intro rest m hrest
    obtain ⟨m', htrack, -⟩ := asksMore_cons hrest
    exact absurd rfl (asks_track_unnamed h htrack).2.2
  cases hl with
  | directory hm =>
    rcases made_cases hm with rfl | ⟨r, rfl⟩
    · exact ⟨asksMore_nil hreq, Or.inl rfl, by simp⟩
    · obtain ⟨_, rfl, hreq⟩ := asksMore_cons hreq
      refine ⟨asksMore_nil hreq, Or.inl rfl, fun x hx => ?_⟩
      rw [List.mem_singleton.mp hx]
      exact .directory _ _ rfl
  | usage hm =>
    obtain ⟨_, rfl, hreq⟩ := asksMore_cons hreq
    rcases made_cases hm with rfl | ⟨r, rfl⟩
    · refine ⟨asksMore_nil hreq, Or.inr rfl, fun x hx => ?_⟩
      rw [List.mem_singleton.mp hx]
      exact .directory _ _ rfl
    · obtain ⟨m, htrack, hreq⟩ := asksMore_cons hreq
      obtain ⟨rfl, hr, -⟩ := asks_track_unnamed h htrack
      refine ⟨asksMore_nil hreq, Or.inr rfl, fun x hx => ?_⟩
      rcases List.mem_cons.mp hx with rfl | hx
      · exact .directory _ _ rfl
      · obtain rfl := List.mem_singleton.mp hx
        exact .usage rfl hr
  | config hm =>
    obtain ⟨_, -, hreq⟩ := asksMore_cons hreq
    exact (tracked hreq).elim
  | beyond hrest =>
    obtain ⟨_, -, hreq⟩ := asksMore_cons hreq
    exact (tracked hreq).elim

theorem early_of_external {l : Record} (h : ∀ x ∈ external l, Early run x) : ∀ x ∈ l, Early run x := by
  intro x hx
  cases hc : x.call.isCheck with
  | true => exact .check (Call.eq_cancelled hc)
  | false => exact h x (List.mem_filter.mpr ⟨hx, by simp [hc]⟩)

theorem ends_of_early {at? : Option Step} {l : Record} {o : Option (Except ConnectError Connection)}
    (hstep : at? = some .directory ∨ at? = some .usage) (hends : ∀ step ∈ at?, EndsBy step l o) (hsome : o ≠ none) :
    (∃ e, o = some (.error e) ∧ e.kindName = "TrackUsageFailed") ∨
      (∃ e, o = some (.error e) ∧ e.kindName = "MkdirFailed") ∨
      (o = some (.error .cancelled) ∧ (⟨.cancelled, some true⟩ : AnsibleStaging.Exchange calls) ∈ l) := by
  rcases hstep with rfl | rfl
  · rcases hends .directory rfl with hcancelled | hnone | ⟨e, he, hkind⟩
    · exact Or.inr (Or.inr hcancelled)
    · exact absurd hnone hsome
    · exact Or.inr (Or.inl ⟨e, he, List.mem_singleton.mp hkind⟩)
  · rcases hends .usage rfl with hcancelled | hnone | ⟨e, he, hkind⟩
    · exact Or.inr (Or.inr hcancelled)
    · exact absurd hnone hsome
    · exact Or.inl ⟨e, he, List.mem_singleton.mp hkind⟩

end

/-! ### Every connect -/

/-- In a connect nothing reads a configuration, or the directory of the run is made and the usage of the configuration is
    recorded first. --/
theorem requests_of_connect (c : Connector) (w : Collaborators σ) (server : Handler api σ) (run : AnsibleRun) (s : σ) :
    let h := (w.through server).handler
    let requests := ((c.connect (.run run)).run h (s, [])).2.2
    (∀ z ∈ requests, ¬z.call.ReadsConfig) ∨
      (directoryMade c run ∈ (c.connect (.run run)).exchanges h (s, []) ∧ TrackedFirst run requests) := by
  intro h requests
  obtain ⟨at?, hbegins, -⟩ := exists_begins (follows_exchanges h (c.stage run) (s, []))
  have hasks := occurs_asksMore (occurs_exchanges h (c.stage run) (s, []))
  exact (hbegins.requests hasks).imp_right fun ⟨hdir, htracked⟩ => ⟨(List.mem_filter.mp hdir).1, htracked⟩

/-- A configuration is read only after its usage was recorded under the uid of the run, which is also the name of its
    directory. The name in the record is the one that is asked for, as far as it goes in a path. Without a name of a
    configuration nothing is asked. --/
theorem config_read_tracked (c : Connector) (w : Collaborators σ) (server : Handler api σ) (run : AnsibleRun) (s : σ) :
    let h := (w.through server).handler
    let log := (c.connect (.run run)).exchanges h (s, [])
    let result := (c.connect (.run run)).run h (s, [])
    (∀ before y after, result.2.2 = before ++ y :: after → y.call.ReadsConfig →
      ∃ name x, before = [x] ∧ run.providerConfig = some name ∧ name ≠ "" ∧ RecordsUsage run.uid.text name x ∧
        AsksForConfig name y ∧ (∀ z ∈ after, ReadsAside z) ∧
        ⟨.makeDirs (c.staging.base.join run.uid.text) .privateDirectory, some (.ok ())⟩ ∈ log) ∧
    (run.providerConfig.getD "" = "" → Unasked log result.2.2 result.1) := by
  intro h log result
  refine ⟨fun before y after hresult hy => ?_, fun hname => ?_⟩
  · rcases requests_of_connect c w server run s with hno | ⟨hdir, htracked⟩
    · exact absurd hy (hno y (by rw [hresult]; simp))
    · rw [hresult] at htracked
      obtain ⟨name, x, hbefore, hname, hne, hx, hget, hafter⟩ := htracked.split hy
      exact ⟨name, x, hbefore, hname, hne, hx, hget, hafter, hdir⟩
  · have hgives : Occurs h.Gives log (s, []) result.2 := occurs_exchanges h (c.stage run) (s, [])
    obtain ⟨at?, hbegins, hends⟩ := exists_begins (follows_exchanges h (c.stage run) (s, []))
    obtain ⟨hno, hstep, hcalls⟩ := hbegins.unnamed hname (occurs_asksMore hgives)
    have hcalls := early_of_external hcalls
    have hsome : result.1 ≠ none := fun hnone => by
      obtain ⟨l, x, hlog, -, hr⟩ := (needsAll_stage c run).unanswered (hnone ▸ follows_exchanges h (c.stage run) (s, []))
      have hx : x ∈ log := (congrArg (x ∈ ·) hlog).mpr (List.mem_append_right _ (List.mem_singleton_self x))
      obtain ⟨u, u', hu⟩ := hgives.exists_of_mem hx
      exact (hcalls x hx).reply_ne_none hu hr
    exact ⟨hno, fun x hx => (hcalls x hx).call, ends_of_early hstep hends hsome⟩

/-- A run with a name for its configuration. --/
def runNaming (config : String) : AnsibleRun := ⟨{ Metadata.empty with uid := ⟨"u"⟩ }, some config, .empty⟩

/-- A server that takes whatever it is asked. --/
def takingServer : Handler api MemTree := fun _ t => (some (.ok ⟨200, "{}".toUTF8⟩), t)

/-- What the connect of such a run asks of such a server. --/
def requestsNaming (config : String) : Requests :=
  let c : Connector := ⟨⟨⟨"/work"⟩⟩, ⟨⟨"/git"⟩⟩, fun _ => none⟩
  ((c.connect (.run (runNaming config))).run ((World.granting .empty .empty).collaborators.through takingServer).handler
    (.empty, [])).2.2

theorem exists_requestsNaming {config asked read : String}
    (h : (requestsNaming config).map (fun x => (x.call.method, x.call.uri)) = [(.patch, asked), (.get, read)])
    (hread : (collection "providerconfigs").toList.isPrefixOf read.toList = true) :
    ∃ x y, requestsNaming config = [x, y] ∧ y.call.ReadsConfig := by
  obtain ⟨x, requests, hrequests, -, hrest⟩ := List.map_eq_cons_iff.mp h
  obtain ⟨y, requests, rfl, hy, hnil⟩ := List.map_eq_cons_iff.mp hrest
  obtain rfl := List.map_eq_nil_iff.mp hnil
  obtain ⟨hget, huri⟩ := Prod.mk.inj hy
  exact ⟨x, y, hrequests, hget, huri ▸ List.isPrefixOf_iff_prefix.mp hread⟩

/-- A server that takes everything is asked to record the usage, and then for the configuration. --/
theorem config_read_tracked_taken : ∃ x y, requestsNaming "default" = [x, y] ∧ y.call.ReadsConfig ∧
    y.call.Names "providerconfigs" "default" ∧ RecordsUsage "u" "default" x := by
  obtain ⟨x, y, hrequests, hreads⟩ := @exists_requestsNaming "default"
    "/apis/ansible.crossplane.io/v1alpha1/providerconfigusages/u?&force=true&fieldManager=ansiblerun"
    "/apis/ansible.crossplane.io/v1alpha1/providerconfigs/default" (by decide +kernel) (by decide +kernel)
  obtain ⟨name, x', hx', hname, -, hrecords, hasks, -⟩ :=
    (config_read_tracked _ _ takingServer (runNaming "default") .empty).1 [x] y [] hrequests hreads
  obtain rfl := (List.cons.inj hx').1
  obtain rfl := Option.some.inj hname
  exact ⟨x, y, hrequests, hreads, hasks.whole.mpr (pathName_eq_self_iff.mp (by decide +kernel)), hrecords⟩

theorem RecordsUsage.unique {uid config config' : String} {x : AnsibleStaging.Exchange api}
    (h : RecordsUsage uid config x) (h' : RecordsUsage uid config' x) : config = config' := by
  obtain ⟨v, hv, hrecords⟩ := h.body
  obtain ⟨v', hv', hrecords'⟩ := h'.body
  obtain rfl : v = v' := Option.some.inj (hv.symm.trans hv')
  exact Json.str.inj (Option.some.inj (hrecords.reference.symm.trans hrecords'.reference))

/-- With the mark of a fragment in it, the name in the record is another one than the one that is asked for. --/
theorem config_read_under_other_name : ∃ x y, requestsNaming "default#x" = [x, y] ∧ y.call.ReadsConfig ∧
    y.call.Names "providerconfigs" "default" ∧ RecordsUsage "u" "default#x" x ∧
      ∀ name, y.call.Names "providerconfigs" name → ¬RecordsUsage "u" name x := by
  obtain ⟨x, y, hrequests, hreads⟩ := @exists_requestsNaming "default#x"
    "/apis/ansible.crossplane.io/v1alpha1/providerconfigusages/u?&force=true&fieldManager=ansiblerun"
    "/apis/ansible.crossplane.io/v1alpha1/providerconfigs/default" (by decide +kernel) (by decide +kernel)
  have hcases : (∀ z ∈ requestsNaming "default#x", ¬z.call.ReadsConfig) ∨
      TrackedFirst (runNaming "default#x") (requestsNaming "default#x") :=
    (requests_of_connect _ _ takingServer (runNaming "default#x") .empty).imp_right And.right
  rw [hrequests] at hcases
  rcases hcases with hno | htracked
  · exact absurd hreads (hno y (List.mem_cons_of_mem _ List.mem_cons_self))
  · have htracked : TrackedFirst (runNaming "default#x") ([x] ++ y :: []) := htracked
    obtain ⟨name, x', hx', hname, -, hrecords, hasks, -⟩ := htracked.split hreads
    obtain rfl := (List.cons.inj hx').1
    obtain rfl := Option.some.inj hname
    have hpath : pathName "default#x" = "default" := by decide +kernel
    have hnames := hasks.names
    rw [hpath] at hnames
    refine ⟨x, y, hrequests, hreads, hnames, hrecords, fun name hother hrecorded => ?_⟩
    exact absurd (hrecords.unique hrecorded) (hnames.unique hother ▸ by decide)

end AnsibleStaging
