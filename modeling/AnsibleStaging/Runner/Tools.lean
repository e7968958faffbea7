import AnsibleStaging.Config
import AnsibleStaging.Resource.AnsibleRun
import AnsibleStaging.Resource.ProviderConfig
import AnsibleStaging.Runner.Handle
import AnsibleStaging.Text.ShellWord

/-! The tools for one working directory: how the runner and galaxy are called there. Both get an environment that
    points git's credential store at the directory named like the working directory. -/

namespace AnsibleStaging

/-- The name of the playbook in a working directory. --/
def playbookName : String := "playbook.yml"

/-- The name of the galaxy requirements in a working directory. --/
def requirementsName : String := "requirements.yml"

/-- What the tools of all directories have in common. --/
structure ToolSettings where
  runnerProgram : String
  galaxyProgram : String
  collectionsPath : Option Path
  gitCredentialsRoot : Option Path
deriving DecidableEq

namespace ToolSettings

def default : ToolSettings := ⟨"ansible-runner", "ansible-galaxy", none, none⟩

instance : Inhabited ToolSettings := ⟨default⟩

def ofConfig (c : ControllerConfig) : ToolSettings :=
  ⟨c.runner.program, c.runner.galaxyProgram, c.runner.collectionsPath, some c.gitCredentialsRoot⟩

end ToolSettings

structure Tools where
  directory : Path
  settings : ToolSettings
deriving DecidableEq

namespace Tools

/-- The variable that says where galaxy installs collections. --/
def collectionsVariable : String := "ANSIBLE_COLLECTIONS_PATH"

/-- The variable that says where git's credential store reads. --/
def gitVariable : String := "GIT_CRED_DIR"

/-- The directory that holds the git credentials of this run, if one is known. --/
def gitDirectory (t : Tools) : Option Path := do
  let root ← t.settings.gitCredentialsRoot
  let name ← t.directory.fileName
  some (root.join name)

/-- The variables that both tools get, in the order of their names. --/
def environment (t : Tools) : List (String × String) :=
  (t.settings.collectionsPath.map fun p => (collectionsVariable, p.text)).toList ++
    (t.gitDirectory.map fun p => (gitVariable, p.text)).toList

def galaxyCommand (t : Tools) : Command :=
  ⟨t.settings.galaxyProgram, ["install", "-r", requirementsName], t.directory, t.environment⟩

/-- The parts of the command line that the runner hands on to the playbook. --/
def handedOn (run : AnsibleRun) : List String :=
  (if run.parameters.checkMode then ["--check"] else []) ++
    if run.parameters.vars.isEmpty then []
    else ["--extra-vars " ++ ShellWord.quote run.parameters.vars.toJson.render]

def runnerArguments (t : Tools) (run : AnsibleRun) : List String :=
  ["run", t.directory.text, "--playbook", playbookName, "--ident", run.uid.text] ++
    match handedOn run with
    | [] => []
    | parts => ["--cmdline", String.intercalate " " parts]

/-- Binds a runner to the directory, the run and its configuration. --/
def init (t : Tools) (run : AnsibleRun) (config : ProviderConfig) : Except RunnerError Runner :=
  if t.settings.runnerProgram.isEmpty then .error (.invalidConfiguration "no ansible-runner binary configured")
  else if t.directory.isEmpty then .error (.invalidConfiguration "no working directory")
  else if run.uid.isEmpty then .error (.invalidConfiguration "AnsibleRun has no uid")
  else
    .ok ⟨run.uid, t.directory, config.name, t.settings.runnerProgram, t.runnerArguments run, t.environment,
      run.parameters.checkMode⟩

end Tools
end AnsibleStaging
