import AnsibleStaging.Proofs.TwoRuns

/-! What a connect shows of credentials. Their bytes go into files, and the only ones that are looked at are those of a
    token for git: whether they are text, and then whether the text is blank. So two connects that find other bytes
    under the same names end alike, with the same words, make the same calls but for the bytes that they write, and
    leave the same paths, kinds and modes. -/

namespace AnsibleStaging
open Script

/-! ### Sites -/

/-- What credentials are looked up in, besides files. --/
structure Vault where
  secret : SecretKey → Except ServiceError ByteArray
  environment : Environment

/-- What is found in one vault is found in the other, perhaps with other bytes, and what is not fails alike. --/
structure Vault.SameLookups (v v' : Vault) : Prop where
  secret : ∀ key, (v.secret key).map (fun _ => ()) = (v'.secret key).map fun _ => ()
  environment : ∀ name, (v.environment name).isSome = (v'.environment name).isSome

/-- All that a connect depends on besides the tree and the vault: the two roots, the world, the places where calls are made
    to fail, and the settings of the tools. --/
structure Site where
  staging : Staging
  gitStaging : Staging
  world : World
  faults : Faults
  settings : ToolSettings

/-- What is fetched, where a file system stands in for the files. --/
def Fetcher.fetchFrom (files : FileSystem MemTree) (locator : String) (t : MemTree) :
    Fetcher → Except FetchError ByteArray
  | fixed answer => answer locator
  | located web => (Locator.fetch (fun u t => (web u, t)) files locator t).1

namespace Site

def connector (a : Site) (v : Vault) : Connector := ⟨a.staging, a.gitStaging, v.environment⟩

/-- The world of the site with the secrets of a vault, behind the faults, and with the tools of the settings. --/
def collaborators (a : Site) (v : Vault) : Collaborators MemTree :=
  { a.world.collaborators with
    files := a.faults.files
    secret := fun key t => (some (v.secret key), t)
    fetch := fun locator t => (some (a.world.fetcher.fetchFrom a.faults.files locator t), t)
    initRunner := fun dir run config t => ((Tools.mk dir a.settings).init run config, t) }

def handler (a : Site) (v : Vault) : Handler calls MemTree := (a.collaborators v).handler

def task (a : Site) (v : Vault) (run : AnsibleRun) : Task ConnectError Connection := (a.connector v).connect (.run run)

def result (a : Site) (v : Vault) (run : AnsibleRun) (t : MemTree) : Option (Except ConnectError Connection) :=
  ((a.task v run).run (a.handler v) t).1

/-- The calls that a connect makes, without the bytes that they write. --/
def asked (a : Site) (v : Vault) (run : AnsibleRun) (t : MemTree) : List Call :=
  ((a.task v run).exchanges (a.handler v) t).map (·.call.outline)

def tree (a : Site) (v : Vault) (run : AnsibleRun) (t : MemTree) : MemTree := ((a.task v run).run (a.handler v) t).2

end Site

/-! ### The token for git -/

/-- All that is looked at in a token: whether it is text, and then whether it is blank. --/
def tokenShape (token : ByteArray) : Option Bool := (Utf8.decode? token).map fun s => (trimBlank s).isEmpty

/-- A connect makes git's credentials with this token: its run is remote, there is a git connection and no entry that is
    meant for git, and this is what the source of the token gives. --/
def Site.Consults (a : Site) (v : Vault) (run : AnsibleRun) (t : MemTree) (token : ByteArray) : Prop :=
  ∃ dir config git u, ((a.connector v).stageEntries run).run (a.handler v) t = (some (.ok (dir, config, none)), u) ∧
    run.source = .remote ∧ config.settings.git = some git ∧
    ((extractCredentials v.environment git.tokenSource git.token).run (a.handler v) u).1 = some (.ok token)

theorem Site.Consults.unique {a : Site} {v : Vault} {run : AnsibleRun} {t : MemTree} {d d' : ByteArray}
    (h : a.Consults v run t d) (h' : a.Consults v run t d') : d = d' := by
  obtain ⟨dir, config, git, u, hu, -, hgit, hd⟩ := h
  obtain ⟨dir', config', git', u', hu', -, hgit', hd'⟩ := h'
  cases hu.symm.trans hu'
  cases hgit.symm.trans hgit'
  cases hd.symm.trans hd'
  rfl

/-! ### Calls of two connects -/

namespace Site
variable {a : Site} {v v' : Vault} {ε α : Type} {Q : α → α → Prop}

/-- Whatever trees with one outline they start from, the scripts run alike with the two vaults. --/
abbrev Alike (a : Site) (v v' : Vault) (Q : α → α → Prop) (s s' : Task ε α) : Prop :=
  AlwaysAlike (a.handler v) (a.handler v') Q s s'

theorem runAlike_guarded {s s' : Task ConnectError α} {t t' : MemTree}
    (hs : RunAlike (a.handler v) (a.handler v') Q s s' t t') :
    RunAlike (a.handler v) (a.handler v') Q (guarded s) (guarded s') t t' := by
  have hr : ∀ v t, a.handler v .cancelled t = (some false, t) := fun _ _ => rfl
  exact runAlike_ask rfl (hr v t) (hr v' t') hs

theorem alike_guarded {s s' : Task ConnectError α} (hs : a.Alike v v' Q s s') : a.Alike v v' Q (guarded s) (guarded s') :=
  fun t t' ht => runAlike_guarded (hs t t' ht)

/-- A call that neither hangs on the tree nor on the vault. --/
theorem alike_fixed (c : Call) (read : calls.Reply c → Except ε α) (r : calls.Reply c)
    (hr : ∀ v t, a.handler v c t = (some r, t)) :
    a.Alike v v' (· = ·) (.ask c fun r => .ofExcept (read r) : Task ε α) (.ask c fun r => .ofExcept (read r)) :=
  alwaysAlike_answer c c read read rfl fun t t' ht => ⟨r, r, t, t', hr v t, hr v' t', ht, endsAlike_rfl _⟩

theorem alike_makeDirs (p : Path) (m : FileMode) : a.Alike v v' (· = ·) (Task.makeDirs p m) (Task.makeDirs p m) :=
  alwaysAlike_answer (.makeDirs p m) (.makeDirs p m) id id rfl fun t t' ht => by
    obtain ⟨answer, tree⟩ := a.faults.makeDirs_of_outline p m ht
    exact ⟨_, _, _, _, rfl, rfl, tree, answer ▸ endsAlike_rfl _⟩

theorem alike_write (p : Path) (data data' : ByteArray) :
    a.Alike v v' (· = ·) (Staging.write p data) (Staging.write p data') :=
  alwaysAlike_answer (.write p data .privateFile) (.write p data' .privateFile) id id rfl fun t t' ht => by
    obtain ⟨answer, tree⟩ := a.faults.write_of_outline p data data' .privateFile ht
    exact ⟨_, _, _, _, rfl, rfl, tree, answer ▸ endsAlike_rfl _⟩

theorem alike_read (p : Path) : a.Alike v v' (fun _ _ => True) (Task.read p) (Task.read p) :=
  alwaysAlike_answer (.read p) (.read p) id id rfl fun t t' ht =>
    ⟨_, _, t, t', Prod.ext rfl (a.faults.read_snd p t), Prod.ext rfl (a.faults.read_snd p t'), ht,
      endsAlike_of_map (a.faults.read_of_outline p ht)⟩

theorem alike_secret (same : v.SameLookups v') (key : SecretKey) :
    a.Alike v v' (fun _ _ => True) (Task.secret key) (Task.secret key) :=
  alwaysAlike_answer (.secret key) (.secret key) id id rfl fun t t' ht =>
    ⟨_, _, t, t', rfl, rfl, ht, endsAlike_of_map (same.secret key)⟩

theorem fetchFrom_alike (f : Fetcher) (faults : Faults) (locator : String) {t t' : MemTree} (ht : t.outline = t'.outline) :
    EndsAlike (fun _ _ => True) (f.fetchFrom faults.files locator t) (f.fetchFrom faults.files locator t') := by
  cases f with
  | fixed answer => exact endsAlike_of_map rfl
  | located web =>
    simp only [Fetcher.fetchFrom, Locator.fetch]
    cases Url.read locator with
    | error e => exact .error _
    | ok u =>
      dsimp only
      split
      · unfold Locator.ofWeb
        cases hw : web u with
        | error why =>
          simp only [hw]
          exact .error _
        | ok answer =>
          simp only [hw]
          exact endsAlike_of_map rfl
      · split
        · unfold Locator.ofFile
          cases u.filePath? with
          | none => exact .error _
          | some p => exact (endsAlike_of_map (faults.read_of_outline p ht)).mapError _
        · exact .error _

theorem alike_fetch (locator : String) : a.Alike v v' (fun _ _ => True) (Task.fetch locator) (Task.fetch locator) :=
  alwaysAlike_answer (.fetch locator) (.fetch locator) id id rfl fun t t' ht =>
    ⟨_, _, t, t', rfl, rfl, ht, fetchFrom_alike a.world.fetcher a.faults locator ht⟩

/-! ### The entries -/

theorem alike_extractCredentials (same : v.SameLookups v') (source : CredentialsSource) (selectors : Selectors) :
    a.Alike v v' (fun _ _ => True) (extractCredentials v.environment source selectors)
      (extractCredentials v'.environment source selectors) := by
  unfold extractCredentials
  cases source with
  | none => exact alwaysAlike_done trivial
  | inline =>
    cases selectors.data with
    | none => exact alwaysAlike_fail _
    | some data => exact alwaysAlike_done trivial
  | environment =>
    dsimp only
    split
    · exact alwaysAlike_fail _
    · next name _ =>
      have found := same.environment name
      cases hv : v.environment name <;> cases hv' : v'.environment name <;> simp [hv, hv'] at found
      · exact alwaysAlike_fail _
      · exact alwaysAlike_done trivial
  | filesystem =>
    dsimp only
    split
    · exact alwaysAlike_fail _
    · exact (alike_read _).mapError _
  | secret =>
    dsimp only
    split
    · exact alwaysAlike_fail _
    · exact (alike_secret same _).mapError _

theorem alike_writeEntry (same : v.SameLookups v') (dir : Path) (e : CredentialEntry) :
    a.Alike v v' (fun r r' => r.1 = r'.1) (writeEntry v.environment dir e) (writeEntry v'.environment dir e) := by
  refine ((alike_extractCredentials same e.source e.selectors).mapError _).bind fun data data' _ => ?_
  refine (alwaysAlike_ofExcept (endsAlike_rfl (entryName e))).bind ?_
  rintro name _ rfl
  exact ((alike_write _ data data').mapError _).bind fun _ _ _ => alwaysAlike_done rfl

theorem alike_writeEntries (same : v.SameLookups v') (dir : Path) (es : List CredentialEntry)
    {latest latest' : Option ByteArray} (h : latest.isSome = latest'.isSome) :
    a.Alike v v' (fun r r' => r.isSome = r'.isSome) (writeEntries v.environment dir latest es)
      (writeEntries v'.environment dir latest' es) := by
  induction es generalizing latest latest' with
  | nil => exact alwaysAlike_done h
  | cons e rest ih =>
    refine (alike_writeEntry same dir e).bind ?_
    rintro ⟨name, data⟩ ⟨_, data'⟩ rfl
    refine ih ?_
    split
    · rfl
    · exact h

theorem alike_ensureDirectory (s : Staging) (uid : Uid) :
    a.Alike v v' (· = ·) (s.ensureDirectory uid) (s.ensureDirectory uid) := by
  refine (alwaysAlike_ofExcept (endsAlike_rfl (s.dir uid))).bind ?_
  rintro dir _ rfl
  exact (alike_makeDirs dir .privateDirectory).bind fun _ _ _ => alwaysAlike_done rfl

theorem alike_stageEntries (same : v.SameLookups v') (run : AnsibleRun) :
    a.Alike v v' (fun r r' => r.1 = r'.1 ∧ r.2.1 = r'.2.1 ∧ r.2.2.isSome = r'.2.2.isSome)
      ((a.connector v).stageEntries run) ((a.connector v').stageEntries run) := by
  have usage : a.Alike v v' (· = ·) (Task.track (.run run)) (Task.track (.run run)) :=
    alike_fixed (.track (.run run)) id (a.world.track (.run run)) fun _ _ => rfl
  have config : a.Alike v v' (· = ·) (Task.providerConfig (run.providerConfig.getD ""))
      (Task.providerConfig (run.providerConfig.getD "")) :=
    alike_fixed (.providerConfig (run.providerConfig.getD "")) id (a.world.providerConfig _) fun _ _ => rfl
  refine (alike_guarded ((alike_ensureDirectory a.staging run.uid).mapError _)).bind ?_
  rintro dir _ rfl
  refine (alike_guarded (usage.mapError _)).bind fun _ _ _ => (alike_guarded (config.mapError _)).bind ?_
  rintro config _ rfl
  exact (alike_guarded (alike_writeEntries same dir _ rfl)).bind fun _ _ h => alwaysAlike_done ⟨rfl, rfl, h⟩

/-! ### The token -/

theorem credentialLine_alike (url username token token' : String) :
    EndsAlike (fun _ _ => True) (credentialLine url username token) (credentialLine url username token') := by
  unfold credentialLine
  split
  · exact .error _
  · split
    · exact .error _
    · split
      · exact .error _
      · cases Url.setUsername? _ username with
        | none => exact .error _
        | some named =>
          -- Whether a password can be set does not hang on the password.
          unfold Url.setPassword?
          by_cases h : named.takesLogin = true
          · simp only [if_pos h]
            exact .ok trivial
          · simp only [if_neg h]
            exact .error _

/-- Of a token only its being blank shows. --/
theorem connectionLine_alike (git : GitConnection) {token token' : String}
    (h : (trimBlank token).isEmpty = (trimBlank token').isEmpty) :
    EndsAlike (fun _ _ => True) (connectionLine git token) (connectionLine git token') := by
  unfold connectionLine
  rw [h]
  split
  · exact .ok trivial
  · exact (credentialLine_alike _ _ _ _).map fun _ _ => id

theorem runAlike_gitCredentials (same : v.SameLookups v') {entry entry' : Option ByteArray}
    (hentry : entry.isSome = entry'.isSome) (git : Option GitConnection) {t t' : MemTree} (ht : t.outline = t'.outline)
    (tokens : entry = none → ∀ g, git = some g → ∀ d d',
      ((extractCredentials v.environment g.tokenSource g.token).run (a.handler v) t).1 = some (.ok d) →
      ((extractCredentials v'.environment g.tokenSource g.token).run (a.handler v') t').1 = some (.ok d') →
      tokenShape d = tokenShape d') :
    RunAlike (a.handler v) (a.handler v') (fun _ _ => True) (gitCredentials v.environment entry git)
      (gitCredentials v'.environment entry' git) t t' := by
  cases entry with
  | some data =>
    cases entry' with
    | some data' => exact alwaysAlike_done trivial t t' ht
    | none => cases hentry
  | none =>
    cases entry' with
    | some data' => cases hentry
    | none =>
      cases git with
      | none => exact alwaysAlike_done trivial t t' ht
      | some g =>
        refine ((alike_extractCredentials same g.tokenSource g.token).mapError _ t t' ht).bind fun d d' u u' hd hd' _ hu => ?_
        have shape := tokens rfl g rfl d d' (congrArg Prod.fst (run_of_mapError_ok hd))
          (congrArg Prod.fst (run_of_mapError_ok hd'))
        unfold tokenShape at shape
        cases hs : Utf8.decode? d <;> cases hs' : Utf8.decode? d' <;> simp only [hs, hs', Option.map_some,
          Option.map_none, reduceCtorEq, Option.some.injEq] at shape ⊢
        · exact alwaysAlike_fail _ u u' hu
        · exact alwaysAlike_ofExcept (connectionLine_alike g shape) u u' hu

/-! ### The whole connect -/

theorem alike_playbookContent (run : AnsibleRun) :
    a.Alike v v' (fun _ _ => True) (playbookContent run) (playbookContent run) := by
  unfold playbookContent
  split
  · exact alwaysAlike_done trivial
  · exact alike_fetch _

theorem runAlike_stagePlaybook (same : v.SameLookups v') (run : AnsibleRun) (dir : Path) (config : ProviderConfig)
    {entry entry' : Option ByteArray} (hentry : entry.isSome = entry'.isSome) {t t' : MemTree} (ht : t.outline = t'.outline)
    (tokens : run.source = .remote → entry = none → ∀ g, config.settings.git = some g → ∀ d d',
      ((extractCredentials v.environment g.tokenSource g.token).run (a.handler v) t).1 = some (.ok d) →
      ((extractCredentials v'.environment g.tokenSource g.token).run (a.handler v') t').1 = some (.ok d') →
      tokenShape d = tokenShape d') :
    RunAlike (a.handler v) (a.handler v') (· = ·) ((a.connector v).stagePlaybook run dir config entry)
      ((a.connector v').stagePlaybook run dir config entry') t t' := by
  have rest : a.Alike v v' (· = ·) (guarded ((playbookContent run).mapError .fetchPlaybook) >>= fun content =>
      guarded ((Staging.write (dir.join playbookName) content).mapError .writePlaybook))
      (guarded ((playbookContent run).mapError .fetchPlaybook) >>= fun content =>
      guarded ((Staging.write (dir.join playbookName) content).mapError .writePlaybook)) :=
    (alike_guarded ((alike_playbookContent run).mapError _)).bind fun content content' _ =>
      alike_guarded ((alike_write _ content content').mapError _)
  unfold Connector.stagePlaybook
  split
  · next hs =>
    have git : RunAlike (a.handler v) (a.handler v') (· = ·) ((a.connector v).stageGitCredentials run entry config)
        ((a.connector v').stageGitCredentials run entry' config) t t' := by
      refine (alwaysAlike_ofExcept (endsAlike_rfl _) t t' ht).bind ?_
      rintro gitDir _ u u' hu hu' rfl -
      rw [run_ofExcept] at hu hu'
      obtain rfl : t = u := congrArg Prod.snd hu
      obtain rfl : t' = u' := congrArg Prod.snd hu'
      refine (runAlike_gitCredentials same hentry config.settings.git ht (tokens hs)).bind ?_
      exact fun content content' u u' _ _ _ hu => (alike_write _ content content').mapError _ u u' hu
    exact (runAlike_guarded (git.mapError _)).bind fun _ _ u u' _ _ _ hu => rest u u' hu
  · exact rest t t' ht

theorem alike_stageRequirements (dir : Path) (config : ProviderConfig) :
    a.Alike v v' (· = ·) (Connector.stageRequirements dir config) (Connector.stageRequirements dir config) := by
  unfold Connector.stageRequirements
  split
  · exact alwaysAlike_done rfl
  · exact alike_guarded ((alike_write _ _ _).mapError _)

theorem alike_prepare (dir : Path) (run : AnsibleRun) (config : ProviderConfig) :
    a.Alike v v' (· = ·) (Connector.prepare dir run config) (Connector.prepare dir run config) := by
  have tools : a.Alike v v' (· = ·) (Task.tools dir : Task ConnectError Unit) (Task.tools dir) :=
    alike_fixed (.tools dir) .ok () fun _ _ => rfl
  have init : a.Alike v v' (· = ·) (Task.initRunner dir run config) (Task.initRunner dir run config) :=
    alike_fixed (.initRunner dir run config) id ((Tools.mk dir a.settings).init run config) fun _ _ => rfl
  have galaxy : a.Alike v v' (· = ·) (Task.installGalaxy dir config) (Task.installGalaxy dir config) :=
    alike_fixed (.installGalaxy dir config) id (a.world.installGalaxy dir config) fun _ _ => rfl
  refine tools.bind fun _ _ _ => (alike_guarded (init.mapError _)).bind ?_
  rintro runner _ rfl
  exact (alike_guarded (galaxy.mapError _)).bind fun _ _ _ => alwaysAlike_done rfl

theorem runAlike_task (same : v.SameLookups v') (run : AnsibleRun) (t : MemTree)
    (tokens : ∀ d d', a.Consults v run t d → a.Consults v' run t d' → tokenShape d = tokenShape d') :
    RunAlike (a.handler v) (a.handler v') (· = ·) (a.task v run) (a.task v' run) t t := by
  show RunAlike _ _ _ ((a.connector v).stage run) ((a.connector v').stage run) t t
  rw [Connector.stage_eq, Connector.stage_eq, Connector.stageFiles_eq, Connector.stageFiles_eq]
  refine RunAlike.bind (Q := (· = ·)) ?_ ?_
  · refine (alike_stageEntries same run t t rfl).bind ?_
    rintro ⟨dir, config, entry⟩ ⟨_, _, entry'⟩ u u' hu hu' ⟨rfl, rfl, hentry⟩ houtline
    refine (runAlike_stagePlaybook same run dir config hentry houtline ?_).bind fun _ _ u u' _ _ _ houtline =>
      (alike_stageRequirements dir config).bind (fun _ _ _ => alwaysAlike_done rfl) u u' houtline
    rintro hs rfl git hgit d d' hd hd'
    obtain rfl : entry' = none := by simpa using hentry.symm
    exact tokens d d' ⟨dir, config, git, u, hu, hs, hgit, hd⟩ ⟨dir, config, git, u', hu', hs, hgit, hd'⟩
  · rintro ⟨dir, config⟩ _ u u' _ _ rfl houtline
    refine ((alike_prepare dir run config).bind ?_) u u' houtline
    rintro runner _ rfl
    exact alwaysAlike_done rfl

end Site

/-- Two connects of one run from one tree, in worlds that differ in the bytes of secrets and variables alone. If the tokens
    that they make git's credentials with have one shape, both end, in the same way and with the same words or the
    same runner; they make the same calls but for the bytes that they write, and leave the same paths, kinds and
    modes. --/
theorem credentials_stay_in_files (a : Site) {v v' : Vault} (same : v.SameLookups v') (run : AnsibleRun) (t : MemTree)
    (tokens : ∀ d d', a.Consults v run t d → a.Consults v' run t d' → tokenShape d = tokenShape d') :
    (∃ r, a.result v run t = some r ∧ a.result v' run t = some r) ∧ a.asked v run t = a.asked v' run t ∧
      (a.tree v run t).outline = (a.tree v' run t).outline := by
  obtain ⟨⟨x, x', hx, hx', alike⟩, asks, tree⟩ := Site.runAlike_task same run t tokens
  refine ⟨?_, asks, tree⟩
  cases alike with
  | ok h => exact ⟨_, hx, h ▸ hx'⟩
  | error e => exact ⟨_, hx, hx'⟩

/-- A key is written from a secret, and the token for git is read from its file. --/
theorem credentials_stay_in_files_key :
    let key : CredentialEntry := ⟨"key", .secret, { Selectors.empty with secret := some ⟨"git", "ops", "token"⟩ }⟩
    let git : GitConnection :=
      ⟨"https://example.org", none, .filesystem, { Selectors.empty with path := some "/work/u/key" }⟩
    let config : ProviderConfig := ⟨.empty, { ProviderSettings.empty with credentials := [key], git := some git }⟩
    let a : Site := ⟨⟨⟨"/work"⟩⟩, ⟨⟨"/git"⟩⟩, .granting config "- hosts: all".toUTF8, .none, .default⟩
    let v : Vault := ⟨fun _ => .ok "hush".toUTF8, fun _ => none⟩
    let v' : Vault := ⟨fun _ => .ok "other words".toUTF8, fun _ => none⟩
    let run : AnsibleRun := ⟨{ Metadata.empty with uid := ⟨"u"⟩ }, none, { RunParameters.empty with source := .remote }⟩
    v.SameLookups v' ∧ (∀ d d', a.Consults v run .empty d → a.Consults v' run .empty d' → tokenShape d = tokenShape d') ∧
      a.Consults v run .empty "hush".toUTF8 ∧ a.Consults v' run .empty "other words".toUTF8 ∧
      (∃ r, a.result v run .empty = some r ∧ a.result v' run .empty = some r) ∧
      a.asked v run .empty = a.asked v' run .empty ∧
      (a.tree v run .empty).outline = (a.tree v' run .empty).outline := by
  intro key git config a v v' run
  have same : v.SameLookups v' := ⟨fun _ => rfl, fun _ => rfl⟩
  have consults : ∀ v : Vault, ∀ d,
      (((a.connector v).stageEntries run).run (a.handler v) .empty).1 = some (.ok (⟨"/work/u"⟩, config, none)) →
      ((extractCredentials v.environment git.tokenSource git.token).run (a.handler v)
        (((a.connector v).stageEntries run).run (a.handler v) .empty).2).1 = some (.ok d) → a.Consults v run .empty d :=
    fun v d hrun hd => ⟨_, config, git, _, Prod.ext hrun rfl, rfl, rfl, hd⟩
  have hush := consults v "hush".toUTF8 (by decide +kernel) (by decide +kernel)
  have other := consults v' "other words".toUTF8 (by decide +kernel) (by decide +kernel)
  have tokens : ∀ d d', a.Consults v run .empty d → a.Consults v' run .empty d' → tokenShape d = tokenShape d' := by
    intro d d' hd hd'
    rw [hd.unique hush, hd'.unique other]
    decide +kernel
  exact ⟨same, tokens, hush, other, credentials_stay_in_files a same run .empty tokens⟩

end AnsibleStaging
