import AnsibleStaging.Proofs.ConnectPlan

/-! Every run of a connect keeps to a plan. The tasks within a step are planned call by call, and each failure is named
    for its step; the steps are then put in a row. A look at the caller stands before each step but one, and nothing
    else is asked between two steps. -/

namespace AnsibleStaging

namespace Connector

def stagePlaybook (c : Connector) (run : AnsibleRun) (dir : Path) (config : ProviderConfig) (entry : Option ByteArray) :
    Task ConnectError Unit := do
  if run.source = .remote then
    guarded ((c.stageGitCredentials run entry config).mapError .gitCredentials)
  let content ← guarded ((playbookContent run).mapError .fetchPlaybook)
  guarded ((Staging.write (dir.join playbookName) content).mapError .writePlaybook)

def stageFiles (c : Connector) (run : AnsibleRun) : Task ConnectError (Path × ProviderConfig) := do
  let dir ← guarded ((c.staging.ensureDirectory run.uid).mapError .makeDirectory)
  guarded ((Task.track (.run run)).mapError .trackUsage)
  let config ← guarded ((Task.providerConfig (run.providerConfig.getD "")).mapError .getConfig)
  let entry ← guarded (writeCredentials c.environment dir config.settings.credentials)
  c.stagePlaybook run dir config entry
  stageRequirements dir config
  return (dir, config)

/-- The part of a connect that comes before anything is done for git. It answers the directory, the configuration, and the
    entry that is meant for git. --/
def stageEntries (c : Connector) (run : AnsibleRun) :
    Task ConnectError (Path × ProviderConfig × Option ByteArray) := do
  let dir ← guarded ((c.staging.ensureDirectory run.uid).mapError .makeDirectory)
  guarded ((Task.track (.run run)).mapError .trackUsage)
  let config ← guarded ((Task.providerConfig (run.providerConfig.getD "")).mapError .getConfig)
  let entry ← guarded (writeCredentials c.environment dir config.settings.credentials)
  return (dir, config, entry)

theorem stageFiles_eq (c : Connector) (run : AnsibleRun) : c.stageFiles run = do
    let (dir, config, entry) ← c.stageEntries run
    c.stagePlaybook run dir config entry
    stageRequirements dir config
    return (dir, config) := by
  simp only [stageFiles, stageEntries, bind_assoc, pure_bind]

/-- A connect stages the files and binds a runner to them. --/
theorem stage_eq (c : Connector) (run : AnsibleRun) : c.stage run = do
    let (dir, config) ← c.stageFiles run
    let runner ← prepare dir run config
    return ⟨dir, runner⟩ := by
  unfold stage stageFiles stagePlaybook
  by_cases h : run.source = .remote
  · simp only [if_pos h, bind_assoc, pure_bind]
  · simp only [if_neg h, bind_assoc, pure_bind]

end Connector

open Script Planning

variable {ε α : Type}

/-! ### Calls -/

theorem keeps_answer (c : Call) (read : calls.Reply c → Except ε α) (answer : Except ε α → calls.Reply c) (a₀ : α)
    (h : ∀ r, answer (read r) = r) : (eachCall fun _ => True).Keeps (.ask c fun r => .ofExcept (read r) : Task ε α)
      fun _ a xs => xs = [⟨c, some (answer (.ok a))⟩] := by
  refine keeps_ask (I := calls) (fun a => answer (.ok a)) a₀ fun r => ?_
  cases hr : read r with
  | ok a => exact Or.inl ⟨a, by rw [← hr, h], rfl⟩
  | error e => exact Or.inr ⟨e, trivial, rfl⟩

theorem keeps_makeDirs (p : Path) (m : FileMode) : (eachCall fun _ => True).Keeps (Task.makeDirs p m)
    fun _ _ xs => xs = [⟨.makeDirs p m, some (.ok ())⟩] :=
  keeps_answer (.makeDirs p m) id id () fun _ => rfl

theorem keeps_write (p : Path) (data : ByteArray) : (eachCall fun _ => True).Keeps (Staging.write p data)
    fun _ _ xs => xs = [writing p data] :=
  keeps_answer (.write p data .privateFile) id id () fun _ => rfl

theorem keeps_read (p : Path) : (eachCall fun _ => True).Keeps (Task.read p)
    fun _ data xs => xs = [⟨.read p, some (.ok data)⟩] :=
  keeps_answer (.read p) id id .empty fun _ => rfl

theorem keeps_secret (key : SecretKey) : (eachCall fun _ => True).Keeps (Task.secret key)
    fun _ data xs => xs = [⟨.secret key, some (.ok data)⟩] :=
  keeps_answer (.secret key) id id .empty fun _ => rfl

theorem keeps_track (r : ManagedResource) : (eachCall fun _ => True).Keeps (Task.track r)
    fun _ _ xs => xs = [⟨.track r, some (.ok ())⟩] :=
  keeps_answer (.track r) id id () fun _ => rfl

theorem keeps_providerConfig (name : String) : (eachCall fun _ => True).Keeps (Task.providerConfig name)
    fun _ config xs => xs = [⟨.providerConfig name, some (.ok config)⟩] :=
  keeps_answer (.providerConfig name) id id .empty fun _ => rfl

theorem keeps_fetch (locator : String) : (eachCall fun _ => True).Keeps (Task.fetch locator)
    fun _ data xs => xs = [⟨.fetch locator, some (.ok data)⟩] :=
  keeps_answer (.fetch locator) id id .empty fun _ => rfl

theorem keeps_initRunner (dir : Path) (run : AnsibleRun) (config : ProviderConfig) :
    (eachCall fun _ => True).Keeps (Task.initRunner dir run config)
      fun _ runner xs => xs = [⟨.initRunner dir run config, some (.ok runner)⟩] :=
  keeps_answer (.initRunner dir run config) id id (.plain run.uid dir "" "") fun _ => rfl

theorem keeps_installGalaxy (dir : Path) (config : ProviderConfig) :
    (eachCall fun _ => True).Keeps (Task.installGalaxy dir config)
      fun _ _ xs => xs = [⟨.installGalaxy dir config, some (.ok ())⟩] :=
  keeps_answer (.installGalaxy dir config) id id () fun _ => rfl

/-! ### Tasks -/

theorem keeps_extractCredentials (env : Environment) (source : CredentialsSource) (selectors : Selectors) :
    (eachCall fun _ => True).Keeps (extractCredentials env source selectors)
      fun _ data xs => xs = lookup source selectors data := by
  -- A source that makes no call gives its bytes or fails.
  have given : ∀ data, lookup source selectors data = [] → (eachCall fun _ => True).Keeps
      (.done data : Task ExtractionError ByteArray) fun _ data xs => xs = lookup source selectors data := by
    intro data h
    refine (Keeps.done data).weaken ?_ fun _ _ hp => hp
    rintro _ _ _ ⟨rfl, rfl⟩
    exact h.symm
  have missing : ∀ e, (eachCall fun _ => True).Keeps (.fail e : Task ExtractionError ByteArray)
      fun _ data xs => xs = lookup source selectors data := fun e => keeps_fail (a := .empty) trivial rfl fun _ _ hp => hp
  unfold extractCredentials
  cases source with
  | none => exact given _ rfl
  | inline =>
    cases hd : selectors.data with
    | none => exact missing _
    | some data => exact given _ rfl
  | environment =>
    dsimp only
    split
    · exact missing _
    · split
      · exact given _ rfl
      · exact missing _
  | filesystem =>
    cases hp : nonEmpty? selectors.path with
    | none => exact missing _
    | some path => simpa only [lookup, hp] using (keeps_read ⟨path⟩).mapError _ fun _ _ => trivial
  | secret =>
    cases hs : selectors.secret with
    | none => exact missing _
    | some key => simpa only [lookup, hs] using (keeps_secret key).mapError _ fun _ _ => trivial

/-- Failures that put the credentials to blame. --/
def BlamesCredentials (e : ConnectError) : Prop := e.kindName ∈ Step.credentials.kinds

theorem keeps_entryName (e : CredentialEntry) : (eachCall BlamesCredentials).Keeps (.ofExcept (entryName e) : Task _ _)
    fun full name xs => xs = [] ∧ name = entryFile e ∧
      (full = true → Staging.safeFileName e.filename = some (entryFile e)) := by
  have blames : ∀ err, entryName e = .error err → BlamesCredentials err := by
    intro err h
    unfold entryName at h
    split at h <;> cases h
    simp [BlamesCredentials, ConnectError.kindName, Step.kinds]
  refine (keeps_ofExcept "" blames).weaken ?_ fun _ _ hp => ⟨hp.1, hp.2.1, nofun⟩
  rintro full name xs ⟨rfl, hname, hfull⟩
  refine ⟨rfl, ?_, ?_⟩
  · rw [hname]
    unfold entryName entryFile
    cases Staging.safeFileName e.filename <;> rfl
  · intro h
    replace hfull := hfull h
    unfold entryName entryFile at *
    cases hs : Staging.safeFileName e.filename with
    | none => simp [hs] at hfull
    | some s => rfl

theorem keeps_writeEntry (env : Environment) (dir : Path) (e : CredentialEntry) :
    (eachCall BlamesCredentials).Keeps (writeEntry env dir e)
      fun full r xs => r.1 = entryFile e ∧ xs = entryRecord dir (e, r.2) ∧ (full = true → Resolved env (e, r.2)) := by
  have blames : ∀ err, err.kindName ∈ Step.credentials.kinds → BlamesCredentials err := fun _ h => h
  have extracted := ((keeps_extractCredentials env e.source e.selectors).follows).mapError .extract
    fun _ _ => blames _ (by simp [ConnectError.kindName, Step.kinds])
  have written := fun p data => (keeps_write p data).mapError (.writeCredentials e.filename)
    fun _ _ => blames _ (by simp [ConnectError.kindName, Step.kinds])
  unfold writeEntry
  refine (extracted.bind fun data => (keeps_entryName e).bind fun name =>
    (written (dir.join name) data).bind fun _ => Keeps.done (name, data)).weaken ?_ fun _ _ hp => ⟨hp.1, hp.2.1, nofun⟩
  rintro full r xs ⟨data, _, _, ⟨rfl, found⟩, ⟨name, _, _, ⟨rfl, rfl, named⟩, ⟨_, _, _, rfl, ⟨rfl, rfl⟩, rfl⟩, rfl⟩, rfl⟩
  exact ⟨rfl, rfl, fun h => ⟨found h, named h⟩⟩

/-- The plan of the entries `es`, which leads to `r` as what git's credential store is to read. --/
def PlansEntries (env : Environment) (dir : Path) (latest : Option ByteArray) (es : List CredentialEntry) (full : Bool)
    (r : Option ByteArray) (xs : Record) : Prop :=
  ∃ resolved, resolved.map Prod.fst = es ∧ r = latestGit latest resolved ∧ xs = resolved.flatMap (entryRecord dir) ∧
    (full = true → ∀ x ∈ resolved, Resolved env x)

theorem PlansEntries.says_more {env : Environment} {dir : Path} {latest : Option ByteArray} {es : List CredentialEntry}
    (r : Option ByteArray) (xs : Record) (h : PlansEntries env dir latest es true r xs) :
    PlansEntries env dir latest es false r xs := by
  obtain ⟨resolved, hes, hr, hxs, -⟩ := h
  exact ⟨resolved, hes, hr, hxs, nofun⟩

theorem keeps_writeEntries (env : Environment) (dir : Path) (latest : Option ByteArray) (es : List CredentialEntry) :
    (eachCall BlamesCredentials).Keeps (writeEntries env dir latest es) (PlansEntries env dir latest es) := by
  induction es generalizing latest with
  | nil =>
    refine (Keeps.done latest).weaken ?_ PlansEntries.says_more
    rintro _ _ _ ⟨rfl, rfl⟩
    exact ⟨[], rfl, rfl, rfl, by simp⟩
  | cons e rest ih =>
    rw [writeEntries]
    refine ((keeps_writeEntry env dir e).bind fun r =>
      ih (if r.1 = gitCredentialsName then some r.2 else latest)).weaken ?_ PlansEntries.says_more
    rintro full r xs ⟨⟨name, data⟩, _, _, ⟨rfl, rfl, here⟩, ⟨resolved, rfl, rfl, rfl, there⟩, rfl⟩
    refine ⟨(e, data) :: resolved, rfl, rfl, by simp, ?_⟩
    intro h x hx
    rcases List.mem_cons.mp hx with rfl | hx
    · exact here h
    · exact there h x hx

theorem keeps_tokenLine (git : GitConnection) (data : ByteArray) :
    (eachCall fun _ => True).Keeps (match Utf8.decode? data with
      | none => Script.fail .invalidToken
      | some token => .ofExcept (connectionLine git token) : Task GitCredentialsError ByteArray) fun _ _ xs => xs = [] := by
  split
  · exact keeps_fail (a := .empty) trivial rfl fun _ _ hp => hp
  · exact (keeps_ofExcept .empty fun _ _ => trivial).weaken (fun _ _ _ hp => hp.1) fun _ _ hp => hp

theorem keeps_gitCredentials (env : Environment) (entry : Option ByteArray) (git : Option GitConnection) :
    (eachCall fun _ => True).Keeps (gitCredentials env entry git)
      fun _ _ xs => ∃ token, xs = tokenLookup entry git token := by
  have given : ∀ data : ByteArray, tokenLookup entry git .empty = [] → (eachCall fun _ => True).Keeps
      (.done data : Task GitCredentialsError ByteArray) fun _ _ xs => ∃ token, xs = tokenLookup entry git token := by
    intro data h
    refine (Keeps.done data).weaken ?_ fun _ _ hp => hp
    rintro _ _ _ ⟨-, rfl⟩
    exact ⟨.empty, h.symm⟩
  unfold gitCredentials
  cases entry with
  | some data => exact given data (by cases git <;> rfl)
  | none =>
    cases git with
    | none => exact given .empty rfl
    | some git =>
      refine (((keeps_extractCredentials env git.tokenSource git.token).mapError .token fun _ _ => trivial).bind
        fun data => keeps_tokenLine git data).weaken ?_ ?_
      · rintro _ _ _ ⟨token, _, _, rfl, rfl, rfl⟩
        exact ⟨token, (List.append_nil _)⟩
      · exact fun _ _ hp => hp

theorem keeps_dir (s : Staging) (uid : Uid) : (eachCall fun _ => True).Keeps (.ofExcept (s.dir uid) : Task _ _)
    fun full d xs => xs = [] ∧ d = s.base.join uid.text ∧ (full = true → uid.isPathSafe = true) := by
  refine (keeps_ofExcept (s.base.join uid.text) fun _ _ => trivial).weaken ?_ fun _ _ hp => ⟨hp.1, hp.2.1, nofun⟩
  rintro full d xs ⟨rfl, hd, hfull⟩
  unfold Staging.dir at hd hfull
  by_cases hu : uid.isPathSafe = true
  · rw [if_pos hu] at hd
    exact ⟨rfl, hd, fun _ => hu⟩
  · rw [if_neg hu] at hd hfull
    exact ⟨rfl, hd, fun h => nomatch hfull h⟩

/-- The plan of the step that replaces what git's credential store reads. --/
def PlansGit (c : Connector) (run : AnsibleRun) (entry : Option ByteArray) (git : Option GitConnection) (full : Bool)
    (xs : Record) : Prop :=
  ∃ content token, xs = tokenLookup entry git token ++ [writing ((c.gitDir run).join gitCredentialsName) content] ∧
    (full = true → (gitCredentials c.environment entry git).Follows (tokenLookup entry git token) (some (.ok content)))

theorem PlansGit.says_more {c : Connector} {run : AnsibleRun} {entry : Option ByteArray} {git : Option GitConnection}
    (xs : Record) (h : PlansGit c run entry git true xs) : PlansGit c run entry git false xs := by
  obtain ⟨content, token, hxs, -⟩ := h
  exact ⟨content, token, hxs, nofun⟩

theorem keeps_stageGitCredentials (c : Connector) (run : AnsibleRun) (entry : Option ByteArray)
    (config : ProviderConfig) : (eachCall fun _ => True).Keeps (c.stageGitCredentials run entry config)
      fun full _ xs => PlansGit c run entry config.settings.git full xs := by
  unfold Connector.stageGitCredentials writeGitCredentials
  rw [ofExcept_mapError]
  refine (((keeps_dir c.gitStaging run.uid).mapError .io fun _ _ => trivial).bind fun dir =>
    (keeps_gitCredentials c.environment entry config.settings.git).follows.bind fun content =>
      (keeps_write (Path.join dir gitCredentialsName) content).mapError .io fun _ _ => trivial).weaken ?_ ?_
  · rintro full _ _ ⟨_, _, _, ⟨rfl, rfl, -⟩, ⟨content, _, _, ⟨⟨token, rfl⟩, found⟩, rfl, rfl⟩, rfl⟩
    exact ⟨content, token, rfl, found⟩
  · exact fun _ => PlansGit.says_more

theorem keeps_ensureDirectory (s : Staging) (uid : Uid) : (eachCall fun _ => True).Keeps (s.ensureDirectory uid)
    fun full d xs => d = s.base.join uid.text ∧
      xs = [⟨.makeDirs (s.base.join uid.text) .privateDirectory, some (.ok ())⟩] ∧
      (full = true → uid.isPathSafe = true) := by
  unfold Staging.ensureDirectory
  refine ((keeps_dir s uid).bind fun dir => (keeps_makeDirs dir .privateDirectory).bind fun _ =>
    Keeps.done dir).weaken ?_ ?_
  · rintro full d _ ⟨_, _, _, ⟨rfl, rfl, safe⟩, ⟨_, _, _, rfl, ⟨rfl, rfl⟩, rfl⟩, rfl⟩
    exact ⟨rfl, rfl, safe⟩
  · exact fun _ _ hp => ⟨hp.1, hp.2.1, nofun⟩

theorem keeps_playbookContent (run : AnsibleRun) : (eachCall fun _ => True).Keeps (playbookContent run)
    fun _ content xs => match run.source with
      | .inline => content = run.parameters.playbook.toUTF8 ∧ xs = []
      | .remote => xs = [⟨.fetch run.parameters.playbook, some (.ok content)⟩] := by
  unfold playbookContent
  cases run.source with
  | inline => exact Keeps.done _
  | remote => exact keeps_fetch _

/-! ### Steps -/

theorem keeps_guarded {s : Step} (hs : s.isGuarded = true) {t : Task ConnectError α} {P : Bool → α → Record → Prop}
    (h : (eachCall fun e => e.kindName ∈ s.kinds).Keeps t P) :
    bySteps.Keeps (guarded t) fun full a p => ∃ xs, P full a xs ∧ p = [(s, xs)] where
  says_more := by
    rintro a p ⟨xs, hp, rfl⟩
    exact ⟨xs, h.says_more a xs hp, rfl⟩
  runs hf := by
    have checks : s.checks = [⟨.cancelled, some false⟩] := if_pos hs
    have alone : ∀ {xs made : Record} {e : Option ConnectError}, s.Breaks xs made e →
        bySteps.Breaks [(s, xs)] made e := fun hb => ⟨[], s, _, [], _, rfl, rfl, hb⟩
    rcases follows_ask hf with ⟨rfl, rfl⟩ | ⟨cancelled, l, rfl, hrest⟩
    · obtain ⟨a, xs, hp⟩ := h.exists_plan
      exact Or.inr ⟨a, _, none, ⟨xs, hp, rfl⟩, alone (.unanswered hs), rfl⟩
    · cases cancelled with
      | true =>
        obtain ⟨rfl, rfl⟩ := follows_fail hrest
        obtain ⟨a, xs, hp⟩ := h.exists_plan
        exact Or.inr ⟨a, _, some .cancelled, ⟨xs, hp, rfl⟩, alone (.cancelled hs), rfl⟩
      | false =>
        rcases h.runs hrest with ⟨a, xs, hp, hl, rfl⟩ | ⟨a, xs, e, hp, ⟨hm, he⟩, rfl⟩
        · refine Or.inl ⟨a, _, ⟨xs, hp, rfl⟩, ?_, rfl⟩
          rw [hl]
          simp [bySteps, Plan.log, checks, eachCall]
        · refine Or.inr ⟨a, _, e, ⟨xs, hp, rfl⟩, ?_, rfl⟩
          have := alone (.within hm he)
          rwa [checks] at this

theorem keeps_tools (dir : Path) : bySteps.Keeps (Task.tools dir)
    fun _ _ p => p = [(.tools, [⟨.tools dir, some ()⟩])] where
  says_more _ _ hp := hp
  runs hf := by
    rcases follows_ask hf with ⟨rfl, rfl⟩ | ⟨⟨⟩, l, rfl, hrest⟩
    · exact Or.inr ⟨(), _, none, rfl, ⟨[], .tools, _, [], _, rfl, rfl, .within List.prefix_rfl (by simp)⟩, rfl⟩
    · obtain ⟨rfl, rfl⟩ := follows_done hrest
      exact Or.inl ⟨(), _, rfl, rfl, rfl⟩

theorem keeps_stagePlaybook (c : Connector) (run : AnsibleRun) (dir : Path) (config : ProviderConfig)
    (entry : Option ByteArray) :
    bySteps.Keeps (c.stagePlaybook run dir config entry) fun full _ p => ∃ token gitContent fetched,
      p = c.playbookPlan run dir entry config.settings.git token gitContent fetched ∧
        (full = true → run.source = .remote → (gitCredentials c.environment entry config.settings.git).Follows
          (tokenLookup entry config.settings.git token) (some (.ok gitContent))) := by
  have content := keeps_guarded (s := .content) rfl ((keeps_playbookContent run).mapError .fetchPlaybook
    fun _ _ => by simp [ConnectError.kindName, Step.kinds])
  have written := fun data => keeps_guarded (s := .playbook) rfl
    ((keeps_write (dir.join playbookName) data).mapError .writePlaybook
      fun _ _ => by simp [ConnectError.kindName, Step.kinds])
  have git := keeps_guarded (s := .gitCredentials) rfl
    ((keeps_stageGitCredentials c run entry config).mapError .gitCredentials
      fun _ _ => by simp [ConnectError.kindName, Step.kinds])
  unfold Connector.stagePlaybook Connector.playbookPlan
  cases hs : run.source with
  | inline =>
    rw [hs] at content
    simp only [reduceCtorEq, ↓reduceIte]
    refine (content.bind written).weaken ?_ fun _ _ ⟨token, gitContent, fetched, hp, _⟩ =>
      ⟨token, gitContent, fetched, hp, nofun⟩
    rintro full _ _ ⟨_, _, _, ⟨_, ⟨rfl, rfl⟩, rfl⟩, ⟨_, rfl, rfl⟩, rfl⟩
    exact ⟨.empty, .empty, .empty, rfl, fun _ => nofun⟩
  | remote =>
    rw [hs] at content
    simp only [↓reduceIte]
    refine (git.bind fun _ => content.bind written).weaken ?_ fun _ _ ⟨token, gitContent, fetched, hp, _⟩ =>
      ⟨token, gitContent, fetched, hp, nofun⟩
    rintro full _ _ ⟨_, _, _, ⟨_, ⟨gitContent, token, rfl, found⟩, rfl⟩, ⟨fetched, _, _, ⟨_, rfl, rfl⟩, ⟨_, rfl, rfl⟩, rfl⟩, rfl⟩
    exact ⟨token, gitContent, fetched, rfl, fun h _ => found h⟩

theorem keeps_stageRequirements (dir : Path) (config : ProviderConfig) :
    bySteps.Keeps (Connector.stageRequirements dir config) fun _ _ p => p = Connector.requirementsPlan dir config := by
  unfold Connector.stageRequirements Connector.requirementsPlan
  cases config.settings.requirements with
  | none =>
    refine (Keeps.done ()).weaken ?_ fun _ _ hp => hp
    exact fun _ _ _ hp => hp.2
  | some text =>
    refine (keeps_guarded (s := .requirements) rfl ((keeps_write _ _).mapError .writeRequirements fun _ _ => by
      simp [ConnectError.kindName, Step.kinds])).weaken ?_ ?_
    · rintro _ _ _ ⟨_, rfl, rfl⟩
      rfl
    · exact fun _ _ hp => hp

/-- The plan of the steps up to the entries, which leads to a directory, a configuration and what is meant for git. --/
def PlansStart (c : Connector) (run : AnsibleRun) (full : Bool) (r : Path × ProviderConfig × Option ByteArray) (p : Plan) :
    Prop :=
  ∃ resolved, resolved.map Prod.fst = r.2.1.settings.credentials ∧ r.1 = c.runDir run ∧ r.2.2 = latestGit none resolved ∧
    p = c.entriesPlan run r.2.1 resolved ∧
    (full = true → run.uid.isPathSafe = true ∧ ∀ x ∈ resolved, Resolved c.environment x)

theorem keeps_stageEntries (c : Connector) (run : AnsibleRun) :
    bySteps.Keeps (c.stageEntries run) (PlansStart c run) := by
  have directory := keeps_guarded (s := .directory) rfl ((keeps_ensureDirectory c.staging run.uid).mapError
    .makeDirectory fun _ _ => by simp [ConnectError.kindName, Step.kinds])
  have usage := keeps_guarded (s := .usage) rfl ((keeps_track (.run run)).mapError .trackUsage
    fun _ _ => by simp [ConnectError.kindName, Step.kinds])
  have config := keeps_guarded (s := .config) rfl ((keeps_providerConfig (run.providerConfig.getD "")).mapError
    .getConfig fun _ _ => by simp [ConnectError.kindName, Step.kinds])
  have credentials := fun (dir : Path) (config : ProviderConfig) => keeps_guarded (s := .credentials) rfl
    (keeps_writeEntries c.environment dir none config.settings.credentials)
  unfold Connector.stageEntries
  refine (directory.bind fun dir => usage.bind fun _ => config.bind fun config => (credentials dir config).bind
    fun entry => Keeps.done (dir, config, entry)).weaken ?_ ?_
  · rintro full _ _ ⟨_, _, _, ⟨_, ⟨rfl, rfl, safe⟩, rfl⟩, ⟨_, _, _, ⟨_, rfl, rfl⟩, ⟨config, _, _, ⟨_, rfl, rfl⟩,
      ⟨_, _, _, ⟨_, ⟨resolved, fits, rfl, rfl, entries⟩, rfl⟩, ⟨rfl, rfl⟩, rfl⟩, rfl⟩, rfl⟩, rfl⟩
    exact ⟨resolved, fits, rfl, rfl, rfl, fun h => ⟨safe h, entries h⟩⟩
  · rintro _ _ ⟨resolved, fits, hdir, hentry, hp, -⟩
    exact ⟨resolved, fits, hdir, hentry, hp, nofun⟩

theorem keeps_stageFiles (c : Connector) (run : AnsibleRun) : bySteps.Keeps (c.stageFiles run) fun full r p =>
    ∃ v : Supply, v.Fits ∧ r = (c.runDir run, v.config) ∧ p = c.filesPlan run v ∧ (full = true → v.Found c run) := by
  rw [Connector.stageFiles_eq]
  refine ((keeps_stageEntries c run).bind fun r => (keeps_stagePlaybook c run r.1 r.2.1 r.2.2).bind fun _ =>
    (keeps_stageRequirements r.1 r.2.1).bind fun _ => Keeps.done (r.1, r.2.1)).weaken ?_ ?_
  · rintro full _ _ ⟨⟨_, config, _⟩, _, _, ⟨resolved, fits, rfl, rfl, rfl, entries⟩, ⟨_, _, _,
      ⟨token, gitContent, fetched, rfl, git⟩, ⟨_, _, _, rfl, ⟨rfl, rfl⟩, rfl⟩, rfl⟩, rfl⟩
    refine ⟨⟨config, resolved, token, gitContent, fetched, .plain run.uid (c.runDir run) "" ""⟩, fits, rfl, ?_,
      fun h => ⟨(entries h).1, (entries h).2, git h⟩⟩
    simp [Connector.filesPlan, Connector.entriesPlan, Connector.openingPlan]
  · rintro _ _ ⟨v, fits, hr, hp, -⟩
    exact ⟨v, fits, hr, hp, nofun⟩

theorem keeps_prepare (dir : Path) (run : AnsibleRun) (config : ProviderConfig) :
    bySteps.Keeps (Connector.prepare dir run config)
      fun _ runner p => p = Connector.runnerPlan dir run config runner := by
  have init := keeps_guarded (s := .runner) rfl ((keeps_initRunner dir run config).mapError .initRunner
    fun _ _ => by simp [ConnectError.kindName, Step.kinds])
  have galaxy := keeps_guarded (s := .galaxy) rfl ((keeps_installGalaxy dir config).mapError .installGalaxy
    fun _ _ => by simp [ConnectError.kindName, Step.kinds])
  unfold Connector.prepare
  refine ((keeps_tools dir).bind fun _ => init.bind fun runner => galaxy.bind fun _ => Keeps.done runner).weaken ?_ ?_
  · rintro _ _ _ ⟨_, _, _, rfl, ⟨runner, _, _, ⟨_, rfl, rfl⟩, ⟨_, _, _, ⟨_, rfl, rfl⟩, ⟨rfl, rfl⟩, rfl⟩, rfl⟩, rfl⟩
    rfl
  · exact fun _ _ hp => hp

/-- Every run of a connect keeps to the plan for what is supplied to it. --/
theorem keeps_stage (c : Connector) (run : AnsibleRun) : bySteps.Keeps (c.stage run) fun full conn p => ∃ v : Supply,
    v.Fits ∧ conn = ⟨c.runDir run, v.runner⟩ ∧ p = c.plan run v ∧ (full = true → v.Found c run) := by
  rw [Connector.stage_eq]
  refine ((keeps_stageFiles c run).bind fun r => (keeps_prepare r.1 run r.2).bind fun runner =>
    Keeps.done (Connection.mk r.1 runner)).weaken ?_ ?_
  · rintro full _ _ ⟨_, _, _, ⟨v, fits, rfl, rfl, found⟩, ⟨runner, _, _, rfl, ⟨rfl, rfl⟩, rfl⟩, rfl⟩
    refine ⟨{ v with runner }, fits, rfl, by simp [Connector.plan, Connector.filesPlan], fun h => ?_⟩
    obtain ⟨uid_safe, entries, git⟩ := found h
    exact ⟨uid_safe, entries, git⟩
  · rintro _ _ ⟨v, fits, hr, hp, -⟩
    exact ⟨v, fits, hr, hp, nofun⟩

/-- A run of a connect goes through the whole plan for `v`, or ends inside it. --/
def GoesAlong (c : Connector) (run : AnsibleRun) (v : Supply) (log : Record)
    (result : Option (Except ConnectError Connection)) : Prop :=
  v.Fits ∧
    ((v.Found c run ∧ log = (c.plan run v).log ∧ result = some (.ok ⟨c.runDir run, v.runner⟩)) ∨
      ∃ e, (c.plan run v).Breaks log e ∧ result = e.map .error)

theorem exists_goesAlong {c : Connector} {run : AnsibleRun} {log : Record}
    {result : Option (Except ConnectError Connection)} (h : (c.stage run).Follows log result) :
    ∃ v, GoesAlong c run v log result := by
  rcases (keeps_stage c run).runs h with ⟨_, _, ⟨v, fits, rfl, rfl, found⟩, hlog, ho⟩ |
    ⟨_, _, e, ⟨v, fits, rfl, rfl, -⟩, hb, ho⟩
  · exact ⟨v, fits, Or.inl ⟨found rfl, hlog, ho⟩⟩
  · exact ⟨v, fits, Or.inr ⟨e, hb, ho⟩⟩

end AnsibleStaging
