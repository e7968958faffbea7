import AnsibleStaging.Proofs.OwnTools
import AnsibleStaging.Proofs.World

/-! The runner of a connection. The connector makes the directory for git from the uid, and the tools take it from the
    name of their directory; both are one, because a uid that is used is one component, so it comes back out of every
    path that it was joined to. -/

namespace AnsibleStaging
open Script

/-- The runner of a connection, and the tools of its directory, are bound to what the calls in `log` have staged. --/
structure BoundRunner {σ : Type} (c : Connector) (p : Platform σ) (run : AnsibleRun) (log : Record) (config : ProviderConfig)
    (tools : Tools) (conn : Connection) : Prop where
  fetched : (⟨.providerConfig (run.providerConfig.getD ""), some (.ok config)⟩ : Exchange calls) ∈ log
  directory : conn.directory = c.staging.base.join run.uid.text
  components : conn.directory.components = c.staging.base.components ++ [.normal run.uid.text]
  runner_directory : conn.runner.directory = conn.directory
  command_directory : conn.runner.command.directory = conn.directory
  arguments : ∃ more, conn.runner.arguments =
    ["run", conn.directory.text, "--playbook", playbookName, "--ident", run.uid.text] ++ more
  uid : conn.runner.uid = run.uid
  providerConfig : conn.runner.providerConfig = config.name
  playbook : ∃ data, writing (conn.directory.join playbookName) data ∈ log
  /-- The step for galaxy has called these tools. If anything is required, what they have launched is their own command,
      and it has ended well. --/
  installed : ⟨.installGalaxy conn.directory config, some (.ok ())⟩ ∈ log ∧ ∃ s,
    tools.installGalaxy (p.launch s) config = .ok () ∧ (config.settings.requirements ≠ none →
      ∃ outcome, p.launch s tools.galaxyCommand = .ok outcome ∧ outcome.success = true)
  galaxy_directory : tools.galaxyCommand.directory = conn.directory
  galaxy_git : tools.galaxyCommand.environment.lookup Tools.gitVariable = some (c.gitStaging.base.join run.uid.text).text
  runner_git : conn.runner.environment.lookup Tools.gitVariable = some (c.gitStaging.base.join run.uid.text).text
  command_git : conn.runner.command.environment.lookup Tools.gitVariable = some (c.gitStaging.base.join run.uid.text).text
  git_staged : run.source = .remote →
    ∃ content, writing ((c.gitStaging.base.join run.uid.text).join gitCredentialsName) content ∈ log

section
variable {c : Connector} {run : AnsibleRun} {v : Supply}

theorem fetched_mem_plan : (⟨.providerConfig (run.providerConfig.getD ""), some (.ok v.config)⟩ : Exchange calls) ∈
    (c.plan run v).record := by
  rw [Connector.plan, Plan.record_append, Connector.filesPlan_record]
  simp

theorem playbook_mem_plan : writing ((c.runDir run).join playbookName) (playbookBytes run v.fetched) ∈
    (c.plan run v).record := by
  rw [Connector.plan, Plan.record_append, Connector.filesPlan_record, Connector.playbookPlan_record]
  simp

theorem galaxy_mem_plan : (⟨.installGalaxy (c.runDir run) v.config, some (.ok ())⟩ : Exchange calls) ∈
    (c.plan run v).record := by
  rw [Connector.plan, Plan.record_append, Connector.runnerPlan_record]
  simp

theorem git_mem_plan (hs : run.source = .remote) :
    writing ((c.gitDir run).join gitCredentialsName) v.gitContent ∈ (c.plan run v).record := by
  rw [Connector.plan, Plan.record_append, Connector.filesPlan_record, Connector.playbookPlan_record, hs]
  simp

end

/-- Whatever is chosen of a connector except its tools, and in whichever order, a run that it has connected has a runner
    that is bound to what was staged. --/
theorem runner_bound {σ : Type} (services : Services σ) {choices : List (BuildChoice σ)} (own : ∀ f, .factory f ∉ choices)
    (p : Platform σ) (env : Environment) (run : AnsibleRun) (s : σ) {conn : Connection} :
    let b := ConnectorBuilder.ofChoices services choices
    let c := b.connector env
    let h := (b.collaborators p).handler
    ((c.connect (.run run)).run h s).1 = some (.ok conn) → ∃ config,
      BoundRunner c p run ((c.connect (.run run)).exchanges h s) config ⟨conn.directory, .ofConfig b.config⟩ conn := by
  intro b c h hok
  have hb : b.factory = none := ConnectorBuilder.factory_ofChoices services own
  obtain ⟨v, found, rfl, made⟩ := plan_of_ok hok
  have hname : Path.IsName run.uid.text := Path.isName_uid found.uid_safe
  -- The runner is the one that the tools of the configuration have answered.
  have hinit := ConnectorBuilder.init_of_mem_exchanges hb (made _ init_mem_plan)
  obtain ⟨s', hgalaxy⟩ := ConnectorBuilder.installGalaxy_of_mem_exchanges hb (made _ galaxy_mem_plan)
  have hinstalled := (Option.some.inj hgalaxy).symm
  obtain ⟨-, -, -, hrunner⟩ := Tools.init_ok_iff.mp (Option.some.inj hinit).symm
  have hgit : (Tools.mk (c.runDir run) (.ofConfig b.config)).environment.lookup Tools.gitVariable =
      some (c.gitDir run).text := by
    rw [Tools.lookup_gitVariable, Connector.runDir, Tools.gitDirectory_join _ hname]
    rfl
  exact ⟨v.config, {
    fetched := made _ fetched_mem_plan
    directory := rfl
    components := Path.components_join _ hname
    runner_directory := by rw [hrunner]
    command_directory := by rw [hrunner]; rfl
    arguments := by rw [hrunner]; exact ⟨_, rfl⟩
    uid := by rw [hrunner]
    providerConfig := by rw [hrunner]
    playbook := ⟨_, made _ playbook_mem_plan⟩
    installed := ⟨made _ galaxy_mem_plan, s', hinstalled, Tools.installGalaxy_ok_iff.mp hinstalled⟩
    galaxy_directory := rfl
    galaxy_git := hgit
    runner_git := by rw [hrunner]; exact hgit
    command_git := by rw [hrunner]; exact hgit
    git_staged := fun hs => ⟨v.gitContent, made _ (git_mem_plan hs)⟩ }⟩

/-- The root for git that is chosen before the configuration does not count, and the spelling of a directory is kept. --/
theorem runner_bound_remote :
    let choices : List (BuildChoice MemTree) := [.gitCredentialsRoot ⟨"/early"⟩, .config .default, .workingDir ⟨"work//"⟩,
      .fetcher fun _ t => (some (.ok .empty), t)]
    let run : AnsibleRun := ⟨{ Metadata.empty with uid := ⟨"u"⟩ }, none, { RunParameters.empty with source := .remote }⟩
    let b := ConnectorBuilder.ofChoices (World.granting .empty .empty).services choices
    let c := b.connector fun _ => none
    let h := (b.collaborators World.platform).handler
    let conn : Connection := ⟨⟨"work//u"⟩, ⟨⟨"u"⟩, ⟨"work//u"⟩, "", "ansible-runner",
      ["run", "work//u", "--playbook", "playbook.yml", "--ident", "u"], [("GIT_CRED_DIR", "/tmp/ansibleDir/u")], false⟩⟩
    (∀ f, .factory f ∉ choices) ∧ ((c.connect (.run run)).run h .empty).1 = some (.ok conn) ∧ ∃ config,
      BoundRunner c World.platform run ((c.connect (.run run)).exchanges h .empty) config ⟨conn.directory, .ofConfig b.config⟩ conn := by
  intro choices run b c h conn
  have own : ∀ f, .factory f ∉ choices := by simp [choices]
  have hok : ((c.connect (.run run)).run h .empty).1 = some (.ok conn) := eq_ok_of_toOption (by decide +kernel)
  exact ⟨own, hok, runner_bound _ own World.platform (fun _ => none) run .empty hok⟩

end AnsibleStaging
