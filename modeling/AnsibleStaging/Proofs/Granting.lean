import AnsibleStaging.Proofs.ConnectCourse

/-! A connect needs all that it asks for. Each call is granted or it is refused, and the first refusal is the end: no
    call follows it, and the failure reports the answer. So a connect that succeeds was granted every call, and one that
    was granted every call fails only where a step refuses on its own what it is given. -/

namespace AnsibleStaging
open Script Planning

/-- Whether an answer gives what was asked for. --/
def Call.grants : (c : Call) → c.Reply → Bool
  | .cancelled, fired => !fired
  | .makeDirs _ _, r => Except.isOk r
  | .write _ _ _, r => Except.isOk r
  | .read _, r => Except.isOk r
  | .secret _, r => Except.isOk r
  | .track _, r => Except.isOk r
  | .providerConfig _, r => Except.isOk r
  | .fetch _, r => Except.isOk r
  | .tools _, _ => true
  | .initRunner _ _ _, r => Except.isOk r
  | .installGalaxy _ _, r => Except.isOk r

def Granted (x : Exchange calls) : Prop := ∃ r, x.reply = some r ∧ x.call.grants r = true

theorem granted_some {c : Call} {r : c.Reply} : Granted ⟨c, some r⟩ ↔ c.grants r = true := by simp [Granted]

theorem eq_some_ok {r : Option (Except IoError Unit)} (h : ∃ a, r = some a ∧ a.isOk = true) : r = some (.ok ()) := by
  obtain ⟨a, rfl, ha⟩ := h
  cases a with
  | ok => rfl
  | error e => cases ha

variable {ε ε' α β : Type} {R : Exchange calls → ε → Prop} {R' : Exchange calls → ε' → Prop} {F : Record → ε → Prop}
  {F' : Record → ε' → Prop}

/-- The task ends with the first call that is not granted, and its failure reports the answer, as `R` says. On its own it
    fails only as `F` says of the calls that it has made. --/
def NeedsAll (R : Exchange calls → ε → Prop) : (Record → ε → Prop) → Task ε α → Prop
  | _, .done _ => True
  | F, .fail e => F [] e
  | F, .ask c next => ∀ r, (Call.grants c r = true → NeedsAll R (fun l => F (⟨c, some r⟩ :: l)) (next r)) ∧
      (Call.grants c r = false → ∃ e, next r = .fail e ∧ R ⟨c, some r⟩ e)

/-- Where a failure comes from: the last of the calls is refused, and the failure reports the answer to it, or all calls
    are granted. --/
inductive Origin (R : Exchange calls → ε → Prop) (F : Record → ε → Prop) (l : Record) (e : ε) : Prop
  | refused (earlier : Record) (x : Exchange calls) (hl : l = earlier ++ [x]) (granted : ∀ y ∈ earlier, Granted y)
      (reports : R x e)
  | own (granted : ∀ y ∈ l, Granted y) (refuses : F l e)

namespace NeedsAll
variable {t : Task ε α} {l : Record}

theorem granted {a : α} (ht : NeedsAll R F t) (h : t.Follows l (some (.ok a))) : ∀ x ∈ l, Granted x := by
  induction t generalizing F l with
  | done a =>
    obtain ⟨rfl, -⟩ := follows_done h
    simp
  | fail e =>
    obtain ⟨-, ho⟩ := follows_fail h
    cases ho
  | ask c next ih =>
    rcases follows_ask h with ⟨-, ho⟩ | ⟨r, l', rfl, hrest⟩
    · cases ho
    · cases hg : Call.grants c r with
      | true => exact List.forall_mem_cons.mpr ⟨granted_some.mpr hg, ih r ((ht r).1 hg) hrest⟩
      | false =>
        obtain ⟨e, he, -⟩ := (ht r).2 hg
        rw [he] at hrest
        obtain ⟨-, ho⟩ := follows_fail hrest
        cases ho

theorem origin {e : ε} (ht : NeedsAll R F t) (h : t.Follows l (some (.error e))) : Origin R F l e := by
  induction t generalizing F l with
  | done a =>
    obtain ⟨-, ho⟩ := follows_done h
    cases ho
  | fail e' =>
    obtain ⟨rfl, ho⟩ := follows_fail h
    obtain rfl : e = e' := by simpa using ho
    exact .own (List.forall_mem_nil _) ht
  | ask c next ih =>
    rcases follows_ask h with ⟨-, ho⟩ | ⟨r, l', rfl, hrest⟩
    · cases ho
    · cases hg : Call.grants c r with
      | true =>
        have hx : Granted ⟨c, some r⟩ := granted_some.mpr hg
        rcases ih r ((ht r).1 hg) hrest with ⟨earlier, x, rfl, granted, reports⟩ | ⟨granted, refuses⟩
        · exact .refused (_ :: earlier) x rfl (List.forall_mem_cons.mpr ⟨hx, granted⟩) reports
        · exact .own (List.forall_mem_cons.mpr ⟨hx, granted⟩) refuses
      | false =>
        obtain ⟨e', he, hR⟩ := (ht r).2 hg
        rw [he] at hrest
        obtain ⟨rfl, ho⟩ := follows_fail hrest
        obtain rfl : e = e' := by simpa using ho
        exact .refused [] _ rfl (List.forall_mem_nil _) hR

/-- A run that ends without a result has been granted all calls but the last, which is not answered. --/
theorem unanswered (ht : NeedsAll R F t) (h : t.Follows l none) :
    ∃ m x, l = m ++ [x] ∧ (∀ y ∈ m, Granted y) ∧ x.reply = none := by
  induction t generalizing F l with
  | done a => cases (follows_done h).2
  | fail e => cases (follows_fail h).2
  | ask c next ih =>
    rcases follows_ask h with ⟨rfl, -⟩ | ⟨r, l', rfl, hrest⟩
    · exact ⟨[], _, rfl, List.forall_mem_nil _, rfl⟩
    · cases hg : Call.grants c r with
      | true =>
        obtain ⟨m, x, rfl, granted, hx⟩ := ih r ((ht r).1 hg) hrest
        exact ⟨_ :: m, x, rfl, List.forall_mem_cons.mpr ⟨granted_some.mpr hg, granted⟩, hx⟩
      | false =>
        obtain ⟨e, he, -⟩ := (ht r).2 hg
        rw [he] at hrest
        cases (follows_fail hrest).2

/-! ### Tasks in a row -/

theorem weaken {F₁ : Record → ε → Prop} (ht : NeedsAll R F t) (hF : ∀ l e, F l e → F₁ l e) : NeedsAll R F₁ t := by
  induction t generalizing F F₁ with
  | done a => trivial
  | fail e => exact hF _ _ ht
  | ask c next ih => exact fun r => ⟨fun hg => ih r ((ht r).1 hg) fun _ _ => hF _ _, (ht r).2⟩

/-- The second task may know what the first one was answered. --/
theorem bind {f : α → Task ε β} (ht : NeedsAll R F t)
    (hf : ∀ a l, t.Follows l (some (.ok a)) → NeedsAll R (fun m => F (l ++ m)) (f a)) : NeedsAll R F (t >>= f) := by
  change NeedsAll R F (t.bind f)
  induction t generalizing F with
  | done a => exact hf a [] (.done a)
  | fail e => exact ht
  | ask c next ih =>
    intro r
    refine ⟨fun hg => ih r ((ht r).1 hg) fun a l hl => hf a _ (.answered hl), fun hg => ?_⟩
    obtain ⟨e, he, hx⟩ := (ht r).2 hg
    exact ⟨e, by simp only [he, Script.bind], hx⟩

/-- The calls of the first task do not matter to the second one. --/
theorem andThen {f : α → Task ε β} (hF : ∀ l m e, F m e → F (l ++ m) e) (ht : NeedsAll R F t)
    (hf : ∀ a, NeedsAll R F (f a)) : NeedsAll R F (t >>= f) :=
  ht.bind fun a l _ => (hf a).weaken (hF l)

theorem mapError (ht : NeedsAll R F t) (f : ε → ε') (hR : ∀ x e, R x e → R' x (f e)) (hF : ∀ l e, F l e → F' l (f e)) :
    NeedsAll R' F' (t.mapError f) := by
  induction t generalizing F F' with
  | done a => trivial
  | fail e => exact hF _ _ ht
  | ask c next ih =>
    intro r
    refine ⟨fun hg => ih r ((ht r).1 hg) fun _ _ => hF _ _, fun hg => ?_⟩
    obtain ⟨e, he, hx⟩ := (ht r).2 hg
    exact ⟨f e, by simp only [he, Script.mapError], hR _ _ hx⟩

end NeedsAll

theorem needsAll_done (a : α) : NeedsAll R F (.done a) := trivial

theorem needsAll_ofExcept {r : Except ε α} (h : ∀ e, r = .error e → F [] e) : NeedsAll R F (.ofExcept r) := by
  cases r with
  | ok a => trivial
  | error e => exact h e rfl

theorem needsAll_answer (c : Call) (read : calls.Reply c → Except ε α) (h : ∀ r, c.grants r = (read r).isOk)
    (hR : ∀ r e, read r = .error e → R ⟨c, some r⟩ e) : NeedsAll R F (.ask c fun r => .ofExcept (read r)) := by
  intro r
  rw [h r]
  dsimp only
  cases hr : read r with
  | ok a => exact ⟨fun _ => needsAll_done a, nofun⟩
  | error e => exact ⟨nofun, fun _ => ⟨e, rfl, hR r e hr⟩⟩

/-- A single call whose failure is put in other words. --/
theorem needsAll_reported (c : Call) (read : calls.Reply c → Except ε α) (f : ε → ε')
    (h : ∀ r, c.grants r = (read r).isOk) (hR : ∀ r e, read r = .error e → R' ⟨c, some r⟩ (f e)) :
    NeedsAll R' F' ((.ask c fun r => .ofExcept (read r) : Task ε α).mapError f) := by
  have asked : NeedsAll (fun x e => R' x (f e)) (fun _ _ => False) (.ask c fun r => .ofExcept (read r) : Task ε α) :=
    needsAll_answer c read h hR
  exact asked.mapError f (fun _ _ => id) fun _ _ => False.elim

/-! ### What the failures of a connect report -/

/-- The failure of a source reports that its lookup was refused. --/
inductive ReportsLookup : Exchange calls → ExtractionError → Prop
  | read (path : String) (e : IoError) : ReportsLookup ⟨.read ⟨path⟩, some (.error e)⟩ (.read path e)
  | secret (key : SecretKey) (e : ServiceError) : ReportsLookup ⟨.secret key, some (.error e)⟩ (.secret e)

inductive ReportsGit : Exchange calls → GitCredentialsError → Prop
  | token {x : Exchange calls} {e : ExtractionError} (h : ReportsLookup x e) : ReportsGit x (.token e)
  | write (p : Path) (data : ByteArray) (e : IoError) : ReportsGit ⟨.write p data .privateFile, some (.error e)⟩ (.io e)

/-- The failure reports that the call was refused. --/
inductive Reports : Exchange calls → ConnectError → Prop
  | cancelled : Reports ⟨.cancelled, some true⟩ .cancelled
  | makeDirs (p : Path) (m : FileMode) (e : IoError) : Reports ⟨.makeDirs p m, some (.error e)⟩ (.makeDirectory e)
  | track (r : ManagedResource) (e : ServiceError) : Reports ⟨.track r, some (.error e)⟩ (.trackUsage e)
  | providerConfig (name : String) (e : ServiceError) : Reports ⟨.providerConfig name, some (.error e)⟩ (.getConfig e)
  | lookup {x : Exchange calls} {e : ExtractionError} (h : ReportsLookup x e) : Reports x (.extract e)
  | writeEntry (p : Path) (data : ByteArray) (filename : String) (e : IoError) :
      Reports ⟨.write p data .privateFile, some (.error e)⟩ (.writeCredentials filename e)
  | git {x : Exchange calls} {e : GitCredentialsError} (h : ReportsGit x e) : Reports x (.gitCredentials e)
  | fetch (locator : String) (e : FetchError) : Reports ⟨.fetch locator, some (.error e)⟩ (.fetchPlaybook e)
  | writePlaybook (p : Path) (data : ByteArray) (e : IoError) :
      Reports ⟨.write p data .privateFile, some (.error e)⟩ (.writePlaybook e)
  | writeRequirements (p : Path) (data : ByteArray) (e : IoError) :
      Reports ⟨.write p data .privateFile, some (.error e)⟩ (.writeRequirements e)
  | initRunner (dir : Path) (run : AnsibleRun) (config : ProviderConfig) (e : RunnerError) :
      Reports ⟨.initRunner dir run config, some (.error e)⟩ (.initRunner e)
  | installGalaxy (dir : Path) (config : ProviderConfig) (e : RunnerError) :
      Reports ⟨.installGalaxy dir config, some (.error e)⟩ (.installGalaxy e)

theorem ReportsLookup.not_granted {x : Exchange calls} {e : ExtractionError} (h : ReportsLookup x e) : ¬Granted x := by
  cases h <;> exact fun hx => nomatch granted_some.mp hx

theorem ReportsGit.not_granted {x : Exchange calls} {e : GitCredentialsError} (h : ReportsGit x e) : ¬Granted x := by
  cases h with
  | token h => exact h.not_granted
  | write => exact fun hx => nomatch granted_some.mp hx

theorem Reports.not_granted {x : Exchange calls} {e : ConnectError} (h : Reports x e) : ¬Granted x := by
  cases h with
  | lookup h => exact h.not_granted
  | git h => exact h.not_granted
  | _ => exact fun hx => nomatch granted_some.mp hx

/-! ### What a connect refuses -/

/-- What an entry is refused for: its source has nothing to look up, or its name is none. --/
inductive RefusesEntry (env : Environment) (e : CredentialEntry) : ConnectError → Prop
  | source {why : ExtractionError} (h : extractCredentials env e.source e.selectors = .fail why) :
      RefusesEntry env e (.extract why)
  | name {why : ConnectError} (h : entryName e = .error why) : RefusesEntry env e why

/-- What a git connection is refused for: its token cannot be looked up, or no line can be made of what was found. --/
inductive RefusesGit (env : Environment) (git : GitConnection) (l : Record) : GitCredentialsError → Prop
  | token {why : ExtractionError} (h : extractCredentials env git.tokenSource git.token = .fail why) :
      RefusesGit env git l (.token why)
  | line {data : ByteArray} {m : Record} {why : GitCredentialsError}
      (found : (extractCredentials env git.tokenSource git.token).Follows m (some (.ok data))) (made : m ⊆ l)
      (h : (Utf8.decode? data).elim (.error .invalidToken) (connectionLine git) = .error why) : RefusesGit env git l why

/-- What a connect refuses by itself once it knows the configuration, where `l` are its calls. --/
inductive Connector.RefusesWith (c : Connector) (run : AnsibleRun) (config : ProviderConfig) (l : Record) :
    ConnectError → Prop
  | entry {e : CredentialEntry} {why : ConnectError} (he : e ∈ config.settings.credentials)
      (h : RefusesEntry c.environment e why) : RefusesWith c run config l why
  | git {git : GitConnection} {why : GitCredentialsError} (hs : run.source = .remote)
      (hgit : config.settings.git = some git) (h : RefusesGit c.environment git l why) :
      RefusesWith c run config l (.gitCredentials why)

/-- What a connect refuses by itself: a uid that names no directory, or what the configuration says. --/
inductive Connector.Refuses (c : Connector) (run : AnsibleRun) (l : Record) : ConnectError → Prop
  | uid {why : IoError} (h : c.staging.dir run.uid = .error why) : Refuses c run l (.makeDirectory why)
  | settings {config : ProviderConfig} {why : ConnectError}
      (known : ⟨.providerConfig (run.providerConfig.getD ""), some (.ok config)⟩ ∈ l)
      (h : c.RefusesWith run config l why) : Refuses c run l why

theorem RefusesGit.mono {env : Environment} {git : GitConnection} {l l' : Record} {why : GitCredentialsError}
    (h : RefusesGit env git l why) (hl : l ⊆ l') : RefusesGit env git l' why := by
  cases h with
  | token h => exact .token h
  | line found made h => exact .line found (List.Subset.trans made hl) h

theorem Connector.RefusesWith.mono {c : Connector} {run : AnsibleRun} {config : ProviderConfig} {l l' : Record}
    {why : ConnectError} (h : c.RefusesWith run config l why) (hl : l ⊆ l') : c.RefusesWith run config l' why := by
  cases h with
  | entry he h => exact .entry he h
  | git hs hgit h => exact .git hs hgit (h.mono hl)

theorem Connector.Refuses.mono {c : Connector} {run : AnsibleRun} {l l' : Record} {why : ConnectError}
    (h : c.Refuses run l why) (hl : l ⊆ l') : c.Refuses run l' why := by
  cases h with
  | uid h => exact .uid h
  | settings known h => exact .settings (hl known) (h.mono hl)

/-! ### The tasks of a connect -/

theorem needsAll_guarded {F : Record → ConnectError → Prop} {t : Task ConnectError α} (hF : ∀ l m e, F m e → F (l ++ m) e)
    (ht : NeedsAll Reports F t) : NeedsAll Reports F (guarded t) := by
  rintro (_ | _)
  · exact ⟨fun _ => ht.weaken (hF [_]), nofun⟩
  · exact ⟨nofun, fun _ => ⟨_, rfl, .cancelled⟩⟩

theorem needsAll_write {f : IoError → ε} (p : Path) (data : ByteArray)
    (hR : ∀ e, R ⟨.write p data .privateFile, some (.error e)⟩ (f e)) :
    NeedsAll R F ((Staging.write p data).mapError f) :=
  needsAll_reported (.write p data .privateFile) (fun r => r) f (fun _ => rfl) fun _ e hr => hr ▸ hR e

theorem needsAll_extractCredentials (env : Environment) (source : CredentialsSource) (selectors : Selectors) :
    NeedsAll ReportsLookup (fun _ e => extractCredentials env source selectors = .fail e)
      (extractCredentials env source selectors) := by
  unfold extractCredentials
  cases source with
  | none => trivial
  | inline =>
    cases selectors.data with
    | none => exact rfl
    | some data => trivial
  | environment =>
    dsimp only
    split
    · exact rfl
    · split
      · trivial
      · exact rfl
  | filesystem =>
    dsimp only
    split
    · exact rfl
    · next path _ =>
      exact needsAll_reported (.read ⟨path⟩) (fun r => r) _ (fun _ => rfl) fun _ e hr => hr ▸ .read path e
  | secret =>
    dsimp only
    split
    · exact rfl
    · next key _ =>
      exact needsAll_reported (.secret key) (fun r => r) _ (fun _ => rfl) fun _ e hr => hr ▸ .secret key e

theorem needsAll_writeEntry (env : Environment) (dir : Path) (e : CredentialEntry) :
    NeedsAll Reports (fun _ => RefusesEntry env e) (writeEntry env dir e) := by
  have extracted : NeedsAll Reports (fun _ => RefusesEntry env e)
      ((extractCredentials env e.source e.selectors).mapError .extract) :=
    (needsAll_extractCredentials env e.source e.selectors).mapError _ (fun _ _ => .lookup) fun _ _ => .source
  refine extracted.andThen (fun _ _ _ => id) fun data => ?_
  refine (needsAll_ofExcept fun _ => .name).andThen (fun _ _ _ => id) fun name => ?_
  exact (needsAll_write (dir.join name) data fun _ => .writeEntry _ _ _ _).andThen (fun _ _ _ => id) fun _ =>
    needsAll_done (name, data)

theorem needsAll_writeEntries (env : Environment) (dir : Path) (latest : Option ByteArray) (es : List CredentialEntry) :
    NeedsAll Reports (fun _ why => ∃ e ∈ es, RefusesEntry env e why) (writeEntries env dir latest es) := by
  induction es generalizing latest with
  | nil => exact needsAll_done latest
  | cons e rest ih =>
    refine ((needsAll_writeEntry env dir e).weaken ?_).andThen (fun _ _ _ => id) fun r =>
      (ih _).weaken ?_
    · exact fun _ why h => ⟨e, List.mem_cons_self, h⟩
    · exact fun _ why ⟨e', he', h⟩ => ⟨e', List.mem_cons_of_mem _ he', h⟩

/-- What git is refused for, if there is a connection and no entry stands in for it. --/
theorem needsAll_gitCredentials (env : Environment) (entry : Option ByteArray) (git : Option GitConnection) :
    NeedsAll ReportsGit (fun l why => ∃ g, git = some g ∧ RefusesGit env g l why) (gitCredentials env entry git) := by
  unfold gitCredentials
  split
  · trivial
  · trivial
  · next git =>
    have extracted : NeedsAll ReportsGit (fun l why => ∃ g, some git = some g ∧ RefusesGit env g l why)
        ((extractCredentials env git.tokenSource git.token).mapError .token) :=
      (needsAll_extractCredentials env git.tokenSource git.token).mapError _ (fun _ _ => .token)
        fun _ _ h => ⟨git, rfl, .token h⟩
    refine extracted.bind fun data l hl => ?_
    have found := follows_of_mapError_ok hl
    have line : ∀ {why}, (Utf8.decode? data).elim (.error .invalidToken) (connectionLine git) = .error why →
        ∃ g, some git = some g ∧ RefusesGit env g (l ++ []) why := fun h =>
      ⟨git, rfl, .line found (List.subset_append_left _ _) h⟩
    split
    · next hd => exact line (by rw [hd]; rfl)
    · next token hd => exact needsAll_ofExcept fun why h => line (by rw [hd]; exact h)

theorem needsAll_stageGitCredentials (c : Connector) {run : AnsibleRun} (safe : run.uid.isPathSafe = true)
    (entry : Option ByteArray) (config : ProviderConfig) :
    NeedsAll ReportsGit (fun l why => ∃ g, config.settings.git = some g ∧ RefusesGit c.environment g l why)
      (c.stageGitCredentials run entry config) := by
  have more : ∀ (l m : Record) (why : GitCredentialsError),
      (∃ g, config.settings.git = some g ∧ RefusesGit c.environment g m why) →
        ∃ g, config.settings.git = some g ∧ RefusesGit c.environment g (l ++ m) why :=
    fun l m why ⟨g, hg, h⟩ => ⟨g, hg, h.mono (List.subset_append_right _ _)⟩
  have made : c.gitStaging.dir run.uid = .ok (c.gitDir run) := if_pos safe
  unfold Connector.stageGitCredentials writeGitCredentials
  rw [made]
  refine (needsAll_ofExcept nofun).andThen more fun dir => ?_
  refine (needsAll_gitCredentials c.environment entry config.settings.git).andThen more fun content => ?_
  exact needsAll_write (Path.join dir gitCredentialsName) content fun _ => .write _ _ _

theorem needsAll_ensureDirectory (s : Staging) (uid : Uid) :
    NeedsAll (fun x e => ∃ p m, x = ⟨.makeDirs p m, some (.error e)⟩) (fun _ e => s.dir uid = .error e)
      (s.ensureDirectory uid) := by
  refine (needsAll_ofExcept fun _ => id).andThen (fun _ _ _ => id) fun dir => ?_
  refine (needsAll_answer (.makeDirs dir .privateDirectory) (fun r => r) (fun _ => rfl) ?_).andThen (fun _ _ _ => id)
    fun _ => needsAll_done dir
  rintro _ e rfl
  exact ⟨dir, _, rfl⟩

theorem needsAll_playbookContent {F : Record → ConnectError → Prop} (run : AnsibleRun) :
    NeedsAll Reports F ((playbookContent run).mapError .fetchPlaybook) := by
  unfold playbookContent
  split
  · trivial
  · exact needsAll_reported (.fetch run.parameters.playbook) (fun r => r) _ (fun _ => rfl)
      fun _ e hr => hr ▸ .fetch _ _

section
variable {c : Connector} {run : AnsibleRun} {config : ProviderConfig}

theorem Connector.Refuses.later (l m : Record) (why : ConnectError) (h : c.Refuses run m why) :
    c.Refuses run (l ++ m) why := h.mono (List.subset_append_right _ _)

theorem Connector.RefusesWith.later (l m : Record) (why : ConnectError) (h : c.RefusesWith run config m why) :
    c.RefusesWith run config (l ++ m) why := h.mono (List.subset_append_right _ _)

theorem needsAll_stagePlaybook (safe : run.uid.isPathSafe = true) (dir : Path) (entry : Option ByteArray) :
    NeedsAll Reports (c.RefusesWith run config) (c.stagePlaybook run dir config entry) := by
  have later := @Connector.RefusesWith.later c run config
  have rest : NeedsAll Reports (c.RefusesWith run config) (guarded ((playbookContent run).mapError .fetchPlaybook) >>=
      fun content => guarded ((Staging.write (dir.join playbookName) content).mapError .writePlaybook)) :=
    (needsAll_guarded later (needsAll_playbookContent run)).andThen later fun content =>
      needsAll_guarded later (needsAll_write (dir.join playbookName) content fun _ => .writePlaybook _ _ _)
  unfold Connector.stagePlaybook
  split
  · next hs =>
    have git : NeedsAll Reports (c.RefusesWith run config)
        ((c.stageGitCredentials run entry config).mapError .gitCredentials) :=
      (needsAll_stageGitCredentials c safe entry config).mapError _ (fun _ _ => .git)
        fun _ _ ⟨_, hgit, h⟩ => .git hs hgit h
    exact (needsAll_guarded later git).andThen later fun _ => rest
  · exact rest

theorem needsAll_stageRequirements (dir : Path) :
    NeedsAll Reports (c.RefusesWith run config) (Connector.stageRequirements dir config) := by
  unfold Connector.stageRequirements
  split
  · trivial
  · exact needsAll_guarded Connector.RefusesWith.later (needsAll_write _ _ fun _ => .writeRequirements _ _ _)

/-- What a guarded step answers was answered after the look at the caller. --/
theorem follows_guarded {t : Task ε α} {f : ε → ConnectError} {l : Record} {a : α}
    (h : (guarded (t.mapError f)).Follows l (some (.ok a))) :
    ∃ m, l = ⟨.cancelled, some false⟩ :: m ∧ t.Follows m (some (.ok a)) := by
  rcases follows_ask h with ⟨-, ho⟩ | ⟨fired, m, rfl, hm⟩
  · cases ho
  · cases fired with
    | true => cases (follows_fail hm).2
    | false => exact ⟨m, rfl, follows_of_mapError_ok hm⟩

theorem isPathSafe_of_follows {s : Staging} {uid : Uid} {f : IoError → ConnectError} {l : Record} {dir : Path}
    (h : (guarded ((s.ensureDirectory uid).mapError f)).Follows l (some (.ok dir))) : uid.isPathSafe = true := by
  obtain ⟨m, -, hm⟩ := follows_guarded h
  rcases (keeps_ensureDirectory s uid).runs hm with ⟨_, _, ⟨-, -, safe⟩, -, -⟩ | ⟨_, _, e, -, -, ho⟩
  · exact safe rfl
  · cases e <;> cases ho

theorem known_of_follows {name : String} {f : ServiceError → ConnectError} {l : Record} {config : ProviderConfig}
    (h : (guarded ((Task.providerConfig name).mapError f)).Follows l (some (.ok config))) :
    ⟨.providerConfig name, some (.ok config)⟩ ∈ l := by
  obtain ⟨m, rfl, hm⟩ := follows_guarded h
  rcases (keeps_providerConfig name).runs hm with ⟨_, _, rfl, rfl, ho⟩ | ⟨_, _, e, -, -, ho⟩
  · obtain rfl : config = _ := by simpa using ho
    exact List.mem_cons_of_mem _ List.mem_cons_self
  · cases e <;> cases ho

theorem needsAll_stageFiles (c : Connector) (run : AnsibleRun) : NeedsAll Reports (c.Refuses run) (c.stageFiles run) := by
  have later := @Connector.Refuses.later c run
  have directory : NeedsAll Reports (c.Refuses run) ((c.staging.ensureDirectory run.uid).mapError .makeDirectory) :=
    (needsAll_ensureDirectory c.staging run.uid).mapError _ (fun _ _ ⟨_, _, hx⟩ => hx ▸ .makeDirs _ _ _) fun _ _ => .uid
  have usage : NeedsAll Reports (c.Refuses run) ((Task.track (.run run)).mapError .trackUsage) :=
    needsAll_reported (.track (.run run)) (fun r => r) _ (fun _ => rfl) fun _ e hr => hr ▸ .track _ _
  have asked : NeedsAll Reports (c.Refuses run)
      ((Task.providerConfig (run.providerConfig.getD "")).mapError .getConfig) :=
    needsAll_reported (.providerConfig _) (fun r => r) _ (fun _ => rfl) fun _ e hr => hr ▸ .providerConfig _ _
  refine (needsAll_guarded later directory).bind fun dir l hdir => NeedsAll.weaken ?_ (later l)
  have safe := isPathSafe_of_follows hdir
  refine (needsAll_guarded later usage).andThen later fun _ => ?_
  refine (needsAll_guarded later asked).bind fun config l hconfig => ?_
  have settled : ∀ m why, c.RefusesWith run config m why → c.Refuses run (l ++ m) why := fun m why h =>
    .settings (List.mem_append_left _ (known_of_follows hconfig)) (h.later l m why)
  have entries : NeedsAll Reports (c.RefusesWith run config)
      (guarded (writeCredentials c.environment dir config.settings.credentials)) :=
    needsAll_guarded Connector.RefusesWith.later ((needsAll_writeEntries _ _ _ _).weaken
      fun _ _ ⟨_, he, h⟩ => .entry he h)
  refine NeedsAll.weaken ?_ settled
  exact entries.andThen Connector.RefusesWith.later fun entry =>
    (needsAll_stagePlaybook safe dir entry).andThen Connector.RefusesWith.later fun _ =>
      (needsAll_stageRequirements dir).andThen Connector.RefusesWith.later fun _ => needsAll_done (dir, config)

theorem needsAll_prepare {F : Record → ConnectError → Prop} (hF : ∀ l m e, F m e → F (l ++ m) e) (dir : Path)
    (run : AnsibleRun) (config : ProviderConfig) : NeedsAll Reports F (Connector.prepare dir run config) := by
  have tools : NeedsAll Reports F (Task.tools dir) := fun _ => ⟨fun _ => trivial, nofun⟩
  have init : NeedsAll Reports F ((Task.initRunner dir run config).mapError .initRunner) :=
    needsAll_reported (.initRunner dir run config) (fun r => r) _ (fun _ => rfl) fun _ e hr => hr ▸ .initRunner _ _ _ _
  have galaxy : NeedsAll Reports F ((Task.installGalaxy dir config).mapError .installGalaxy) :=
    needsAll_reported (.installGalaxy dir config) (fun r => r) _ (fun _ => rfl) fun _ e hr => hr ▸ .installGalaxy _ _ _
  exact tools.andThen hF fun _ => (needsAll_guarded hF init).andThen hF fun runner =>
    (needsAll_guarded hF galaxy).andThen hF fun _ => needsAll_done runner

/-- A connect ends with the first call that is refused and reports the answer, or with what it refuses by itself. --/
theorem needsAll_stage (c : Connector) (run : AnsibleRun) : NeedsAll Reports (c.Refuses run) (c.stage run) := by
  rw [Connector.stage_eq]
  exact (needsAll_stageFiles c run).andThen Connector.Refuses.later fun r =>
    (needsAll_prepare Connector.Refuses.later r.1 run r.2).andThen Connector.Refuses.later fun runner =>
      needsAll_done (Connection.mk r.1 runner)

end

end AnsibleStaging
