import AnsibleStaging.Proofs.PathComponents
import AnsibleStaging.Proofs.Retry

/-! What a connect asks for at all. Whatever it is answered, it makes one directory, it writes files with the names of its
    entries, of the playbook and of the requirements, and it reads only where a source or the locator points. What its
    entries are it learns in one answer, so the calls are bounded by the configurations that this answer may give. -/

namespace AnsibleStaging

namespace Script
variable {I : Interface} {ε ε' α β : Type} {R : Exchange I → Prop} {P : I.Call → Prop} {Q : α → Prop} {Q' : β → Prop}

/-- As long as the answers are as `R` says, the script makes only calls in `P` and ends well only with values in `Q`. --/
def Within (R : Exchange I → Prop) (P : I.Call → Prop) (Q : α → Prop) : Script I ε α → Prop
  | .done a => Q a
  | .fail _ => True
  | .ask c next => P c ∧ ∀ r, R ⟨c, some r⟩ → Within R P Q (next r)

theorem Within.calls {t : Script I ε α} {l : List (Exchange I)} {o : Option (Except ε α)} (ht : t.Within R P Q)
    (h : t.Follows l o) (hl : ∀ x ∈ l, R x) : ∀ x ∈ l, P x.call := by
  induction h with
  | done => simp
  | fail => simp
  | stopped c next => exact fun x hx => List.mem_singleton.mp hx ▸ ht.1
  | answered _ ih =>
    obtain ⟨hx, hl⟩ := List.forall_mem_cons.mp hl
    exact List.forall_mem_cons.mpr ⟨ht.1, ih (ht.2 _ hx) hl⟩

theorem Within.bind {t : Script I ε α} {f : α → Script I ε β} (ht : t.Within R P Q)
    (hf : ∀ a, Q a → (f a).Within R P Q') : (t >>= f).Within R P Q' := by
  change (t.bind f).Within R P Q'
  induction t with
  | done a => exact hf a ht
  | fail e => trivial
  | ask c next ih => exact ⟨ht.1, fun r hr => ih r (ht.2 r hr)⟩

theorem Within.mapError {t : Script I ε α} (ht : t.Within R P Q) (f : ε → ε') : (t.mapError f).Within R P Q := by
  induction t with
  | done a => exact ht
  | fail e => trivial
  | ask c next ih => exact ⟨ht.1, fun r hr => ih r (ht.2 r hr)⟩

theorem within_ofExcept {x : Except ε α} (h : ∀ a, x = .ok a → Q a) : (ofExcept x : Script I ε α).Within R P Q := by
  cases x with
  | ok a => exact h a rfl
  | error e => trivial

end Script

open Script

namespace Connector

/-- The names of the files in the directory of a run. --/
def fileNames (config : ProviderConfig) : List String :=
  (config.settings.credentials.filterMap fun e => Staging.safeFileName e.filename) ++ [playbookName] ++
    config.settings.requirements.toList.map fun _ => requirementsName

/-- The files that a connect with this configuration replaces. --/
def stagedFiles (c : Connector) (run : AnsibleRun) (config : ProviderConfig) : List Path :=
  (fileNames config).map (c.runDir run).join ++ if run.source = .remote then [(c.gitDir run).join gitCredentialsName] else []

/-- The calls that a connect may make if the configuration is one of the given ones. --/
def MayAsk (c : Connector) (run : AnsibleRun) (given : ProviderConfig → Prop) : Call → Prop
  | .makeDirs p m => run.uid.isPathSafe = true ∧ p = c.runDir run ∧ m = .privateDirectory
  | .write p _ m => run.uid.isPathSafe = true ∧ m = .privateFile ∧ ∃ config, given config ∧ p ∈ c.stagedFiles run config
  | .read p => ∃ config, given config ∧ p ∈ selectedPaths config
  | .fetch locator => run.source = .remote ∧ locator = run.parameters.playbook
  | _ => True

end Connector

/-- A configuration that is answered is one of the given ones. --/
def Supplies (run : AnsibleRun) (given : ProviderConfig → Prop) (x : Exchange calls) : Prop :=
  ∀ config, x = ⟨.providerConfig (run.providerConfig.getD ""), some (.ok config)⟩ → given config

theorem isName_of_mem_fileNames {config : ProviderConfig} {name : String} (h : name ∈ Connector.fileNames config) :
    Path.IsName name := by
  simp only [Connector.fileNames, List.mem_append, List.mem_filterMap, List.mem_singleton, List.mem_map] at h
  rcases h with (⟨e, -, he⟩ | rfl) | ⟨_, -, rfl⟩
  · exact Path.isName_of_fileName he
  · constructor <;> decide
  · constructor <;> decide

/-! ### The tasks of a connect -/

section
variable {α ε : Type} {Q : α → Prop} {c : Connector} {run : AnsibleRun} {given : ProviderConfig → Prop}
  {config : ProviderConfig} {name : String} {dir : Path}

theorem within_answer {R : Exchange calls → Prop} {P : Call → Prop} (call : Call) (read : calls.Reply call → Except ε α)
    (hc : P call) (h : ∀ r a, R ⟨call, some r⟩ → read r = .ok a → Q a) :
    (Script.ask call fun r => .ofExcept (read r) : Task ε α).Within R P Q :=
  ⟨hc, fun r hr => within_ofExcept fun a => h r a hr⟩

theorem within_guarded {t : Task ConnectError α} (ht : t.Within (Supplies run given) (c.MayAsk run given) Q) :
    (guarded t).Within (Supplies run given) (c.MayAsk run given) Q :=
  ⟨trivial, fun fired _ => by cases fired <;> first | exact ht | trivial⟩

theorem within_write {p : Path} (safe : run.uid.isPathSafe = true) (hconfig : given config)
    (h : p ∈ c.stagedFiles run config) (data : ByteArray) :
    (Staging.write p data).Within (Supplies run given) (c.MayAsk run given) fun _ => True :=
  within_answer (.write p data .privateFile) id ⟨safe, rfl, config, hconfig, h⟩ fun _ _ _ _ => trivial

theorem mem_stagedFiles (h : name ∈ Connector.fileNames config) : (c.runDir run).join name ∈ c.stagedFiles run config :=
  List.mem_append_left _ (List.mem_map_of_mem h)

theorem within_extractCredentials {source : CredentialsSource} {selectors : Selectors} (hconfig : given config)
    (h : ∀ q ∈ selected source selectors, q ∈ selectedPaths config) (env : Environment) :
    (extractCredentials env source selectors).Within (Supplies run given) (c.MayAsk run given) fun _ => True := by
  unfold extractCredentials
  cases source with
  | none => trivial
  | inline => cases selectors.data <;> trivial
  | environment =>
    dsimp only
    split
    · trivial
    · split <;> trivial
  | filesystem =>
    dsimp only
    split
    · trivial
    · next path hpath =>
      have hread : c.MayAsk run given (.read ⟨path⟩) := ⟨config, hconfig, h ⟨path⟩ (by simp [selected, hpath])⟩
      have asked : (Task.read ⟨path⟩).Within (Supplies run given) (c.MayAsk run given) fun _ => True :=
        within_answer (.read ⟨path⟩) id hread fun _ _ _ _ => trivial
      exact asked.mapError _
  | secret =>
    dsimp only
    split
    · trivial
    · next key _ =>
      have asked : (Task.secret key).Within (Supplies run given) (c.MayAsk run given) fun _ => True :=
        within_answer (.secret key) id trivial fun _ _ _ _ => trivial
      exact asked.mapError _

theorem within_writeEntry {e : CredentialEntry} (safe : run.uid.isPathSafe = true) (hconfig : given config)
    (he : e ∈ config.settings.credentials) (env : Environment) :
    (writeEntry env (c.runDir run) e).Within (Supplies run given) (c.MayAsk run given) fun _ => True := by
  have looks : ∀ q ∈ selected e.source e.selectors, q ∈ selectedPaths config := fun q hq =>
    List.mem_append_left _ (List.mem_flatMap.mpr ⟨e, he, hq⟩)
  have named : (ofExcept (entryName e) : Task ConnectError String).Within (Supplies run given) (c.MayAsk run given)
      fun name => name ∈ Connector.fileNames config := by
    refine within_ofExcept fun name hname => ?_
    unfold entryName at hname
    split at hname
    · next s hs =>
      cases hname
      exact List.mem_append_left _ (List.mem_append_left _ (List.mem_filterMap.mpr ⟨e, he, hs⟩))
    · cases hname
  exact ((within_extractCredentials hconfig looks env).mapError _).bind fun data _ => named.bind fun name hname =>
    ((within_write safe hconfig (mem_stagedFiles hname) data).mapError _).bind fun _ _ => trivial

theorem within_writeEntries (safe : run.uid.isPathSafe = true) (hconfig : given config) (env : Environment)
    (latest : Option ByteArray) {es : List CredentialEntry} (hes : ∀ e ∈ es, e ∈ config.settings.credentials) :
    (writeEntries env (c.runDir run) latest es).Within (Supplies run given) (c.MayAsk run given) fun _ => True := by
  induction es generalizing latest with
  | nil => trivial
  | cons e rest ih =>
    obtain ⟨he, hrest⟩ := List.forall_mem_cons.mp hes
    exact (within_writeEntry safe hconfig he env).bind fun r _ => ih _ hrest

theorem within_gitCredentials (hconfig : given config) (env : Environment) (entry : Option ByteArray) :
    (gitCredentials env entry config.settings.git).Within (Supplies run given) (c.MayAsk run given) fun _ => True := by
  unfold gitCredentials
  split
  · trivial
  · trivial
  · next git hgit =>
    have looks : ∀ q ∈ selected git.tokenSource git.token, q ∈ selectedPaths config := by
      intro q hq
      refine List.mem_append_right _ ?_
      rw [hgit, Option.elim_some]
      exact hq
    refine ((within_extractCredentials hconfig looks env).mapError _).bind fun data _ => ?_
    split
    · trivial
    · apply within_ofExcept
      exact fun _ _ => trivial

theorem within_dir (s : Staging) (uid : Uid) {R : Exchange calls → Prop} {P : Call → Prop} :
    (ofExcept (s.dir uid) : Task IoError Path).Within R P
      fun dir => uid.isPathSafe = true ∧ dir = s.base.join uid.text := by
  refine within_ofExcept fun dir hdir => ?_
  unfold Staging.dir at hdir
  split at hdir
  · next hsafe =>
    cases hdir
    exact ⟨hsafe, rfl⟩
  · cases hdir

theorem within_ensureDirectory :
    (c.staging.ensureDirectory run.uid).Within (Supplies run given) (c.MayAsk run given)
      fun dir => run.uid.isPathSafe = true ∧ dir = c.runDir run := by
  refine (within_dir c.staging run.uid).bind fun dir hdir => ?_
  have asked : (Task.makeDirs dir .privateDirectory).Within (Supplies run given) (c.MayAsk run given) fun _ => True :=
    within_answer (.makeDirs dir .privateDirectory) id ⟨hdir.1, hdir.2, rfl⟩ fun _ _ _ _ => trivial
  exact asked.bind fun _ _ => hdir

theorem within_stageGitCredentials (hs : run.source = .remote) (hconfig : given config) (entry : Option ByteArray) :
    (c.stageGitCredentials run entry config).Within (Supplies run given) (c.MayAsk run given) fun _ => True := by
  unfold Connector.stageGitCredentials
  rw [Planning.ofExcept_mapError]
  refine ((within_dir c.gitStaging run.uid).mapError _).bind fun dir hdir => ?_
  obtain ⟨safe, rfl⟩ := hdir
  refine (within_gitCredentials hconfig c.environment entry).bind fun content _ => ?_
  have hfile : (c.gitDir run).join gitCredentialsName ∈ c.stagedFiles run config :=
    List.mem_append_right _ (by simp [hs])
  exact (within_write safe hconfig hfile content).mapError _

theorem within_playbookContent :
    (playbookContent run).Within (Supplies run given) (c.MayAsk run given) fun _ => True := by
  unfold playbookContent
  split
  · trivial
  · next hs => exact within_answer (.fetch run.parameters.playbook) id ⟨hs, rfl⟩ fun _ _ _ _ => trivial

theorem within_stagePlaybook (safe : run.uid.isPathSafe = true) (hconfig : given config) (entry : Option ByteArray) :
    (c.stagePlaybook run (c.runDir run) config entry).Within (Supplies run given) (c.MayAsk run given) fun _ => True := by
  have hplaybook : playbookName ∈ Connector.fileNames config := by simp [Connector.fileNames]
  have rest : (guarded ((playbookContent run).mapError .fetchPlaybook) >>= fun content =>
      guarded ((Staging.write ((c.runDir run).join playbookName) content).mapError .writePlaybook)).Within
      (Supplies run given) (c.MayAsk run given) fun _ => True :=
    (within_guarded (within_playbookContent.mapError _)).bind fun content _ =>
      within_guarded ((within_write safe hconfig (mem_stagedFiles hplaybook) content).mapError _)
  unfold Connector.stagePlaybook
  split
  · next hs => exact (within_guarded ((within_stageGitCredentials hs hconfig entry).mapError _)).bind fun _ _ => rest
  · exact rest

theorem within_stageRequirements (safe : run.uid.isPathSafe = true) (hconfig : given config) :
    (Connector.stageRequirements (c.runDir run) config).Within (Supplies run given) (c.MayAsk run given)
      fun _ => True := by
  unfold Connector.stageRequirements
  split
  · trivial
  · next text htext =>
    have hname : requirementsName ∈ Connector.fileNames config := by simp [Connector.fileNames, htext]
    exact within_guarded ((within_write safe hconfig (mem_stagedFiles hname) text.toUTF8).mapError _)

theorem within_stageFiles :
    (c.stageFiles run).Within (Supplies run given) (c.MayAsk run given) fun _ => True := by
  have usage : (Task.track (.run run)).Within (Supplies run given) (c.MayAsk run given) fun _ => True :=
    within_answer (.track (.run run)) id trivial fun _ _ _ _ => trivial
  have config : (Task.providerConfig (run.providerConfig.getD "")).Within (Supplies run given) (c.MayAsk run given)
      given :=
    within_answer (.providerConfig (run.providerConfig.getD "")) id trivial fun r config hr hread =>
      hr config (by rw [show r = .ok config from hread])
  refine (within_guarded (within_ensureDirectory.mapError _)).bind fun dir hdir => ?_
  obtain ⟨safe, rfl⟩ := hdir
  exact (within_guarded (usage.mapError _)).bind fun _ _ => (within_guarded (config.mapError _)).bind fun config hconfig =>
    (within_guarded (within_writeEntries safe hconfig c.environment none fun _ => id)).bind fun entry _ =>
      (within_stagePlaybook safe hconfig entry).bind fun _ _ => (within_stageRequirements safe hconfig).bind fun _ _ =>
        trivial

theorem within_prepare (dir : Path) (config : ProviderConfig) :
    (Connector.prepare dir run config).Within (Supplies run given) (c.MayAsk run given) fun _ => True := by
  have init : (Task.initRunner dir run config).Within (Supplies run given) (c.MayAsk run given) fun _ => True :=
    within_answer (.initRunner dir run config) id trivial fun _ _ _ _ => trivial
  have galaxy : (Task.installGalaxy dir config).Within (Supplies run given) (c.MayAsk run given) fun _ => True :=
    within_answer (.installGalaxy dir config) id trivial fun _ _ _ _ => trivial
  have tools : (Task.tools dir : Task ConnectError Unit).Within (Supplies run given) (c.MayAsk run given) fun _ => True :=
    ⟨trivial, fun _ _ => trivial⟩
  exact tools.bind fun _ _ => (within_guarded (init.mapError _)).bind fun runner _ =>
    (within_guarded (galaxy.mapError _)).bind fun _ _ => trivial

/-- Whatever a connect is answered, it makes no other calls. --/
theorem within_stage (c : Connector) (run : AnsibleRun) (given : ProviderConfig → Prop) :
    (c.stage run).Within (Supplies run given) (c.MayAsk run given) fun _ => True := by
  rw [Connector.stage_eq]
  exact within_stageFiles.bind fun r _ => (within_prepare r.1 r.2).bind fun _ _ => trivial

end

end AnsibleStaging
