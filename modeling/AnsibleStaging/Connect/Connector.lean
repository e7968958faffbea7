import AnsibleStaging.Credentials.Git
import AnsibleStaging.Playbook.Fetch
import AnsibleStaging.Runner.Tools

/-! Connecting a run: its directory, its credentials and its playbook are staged, and a runner is bound to them. The
    steps come in one order and the first failure ends them. Cancelling is looked at between steps; what was
    written stays. -/

namespace AnsibleStaging

/-- A run that is ready: its directory and the runner that is bound to it. --/
structure Connection where
  directory : Path
  runner : Runner
deriving DecidableEq

structure Connector where
  staging : Staging
  gitStaging : Staging
  environment : Environment

/-- A step that is not started once the caller has cancelled. --/
def guarded {α : Type} (step : Task ConnectError α) : Task ConnectError α :=
  .ask .cancelled fun (cancelled : Bool) => if cancelled then .fail .cancelled else step

namespace Connector

/-- A connector whose directories are those of a configuration. --/
def ofConfig (config : ControllerConfig) (environment : Environment) : Connector :=
  ⟨⟨config.workingDir⟩, ⟨config.gitCredentialsRoot⟩, environment⟩

/-- Replaces what git's credential store reads for a run. --/
def stageGitCredentials (c : Connector) (run : AnsibleRun) (entry : Option ByteArray) (config : ProviderConfig) :
    Task GitCredentialsError Unit := do
  let dir ← .ofExcept ((c.gitStaging.dir run.uid).mapError .io)
  let content ← gitCredentials c.environment entry config.settings.git
  writeGitCredentials dir content

/-- Writes the requirements, if the configuration has any. --/
def stageRequirements (dir : Path) (config : ProviderConfig) : Task ConnectError Unit :=
  match config.settings.requirements with
  | none => .done ()
  | some text =>
    guarded ((Staging.write (dir.join requirementsName) text.toUTF8).mapError .writeRequirements)

/-- Binds a runner to a staged directory and installs what the configuration requires. --/
def prepare (dir : Path) (run : AnsibleRun) (config : ProviderConfig) : Task ConnectError Runner := do
  Task.tools dir
  let runner ← guarded ((Task.initRunner dir run config).mapError .initRunner)
  guarded ((Task.installGalaxy dir config).mapError .installGalaxy)
  return runner

def stage (c : Connector) (run : AnsibleRun) : Task ConnectError Connection := do
  let dir ← guarded ((c.staging.ensureDirectory run.uid).mapError .makeDirectory)
  guarded ((Task.track (.run run)).mapError .trackUsage)
  let config ← guarded ((Task.providerConfig (run.providerConfig.getD "")).mapError .getConfig)
  let entry ← guarded (writeCredentials c.environment dir config.settings.credentials)
  if run.source = .remote then
    guarded ((c.stageGitCredentials run entry config).mapError .gitCredentials)
  let content ← guarded ((playbookContent run).mapError .fetchPlaybook)
  guarded ((Staging.write (dir.join playbookName) content).mapError .writePlaybook)
  stageRequirements dir config
  let runner ← prepare dir run config
  return ⟨dir, runner⟩

/-- Prepares a resource for execution; only runs can be. --/
def connect (c : Connector) : ManagedResource → Task ConnectError Connection
  | .run r => c.stage r
  | .other o => .fail (.notSupported o.kind)

end Connector

/-- How a connect ends. A step that does not complete ends only when the caller cancels. --/
def outcome {α : Type} (r : Option (Except ConnectError α)) : Except ConnectError α := r.getD (.error .cancelled)

end AnsibleStaging
