import AnsibleStaging.CommandLine.Invocation
import AnsibleStaging.Connect.Connector

/-! The program: what it does for each way in which it can be called, as a script over what it asks of the machine. A
    run is connected only after its configuration was accepted, the cluster is known and the run was found. -/

namespace AnsibleStaging
namespace CommandLine

inductive Ask where
  | read (p : Path)
  /-- The run that the control plane has under a name. --/
  | getRun (name : String)
  /-- Prepares a run with a connector of this configuration. --/
  | connect (config : ControllerConfig) (run : AnsibleRun)
  | execute (r : Runner)

def Ask.Reply : Ask → Type
  | read _ => Except IoError ByteArray
  | getRun _ => Except ServiceError AnsibleRun
  | connect _ _ => Except ConnectError Connection
  | execute _ => Except RunnerError String

def asks : Interface := ⟨Ask, Ask.Reply⟩

/-- What the program does, up to its end or a failure that ends it. --/
abbrev Course (α : Type) := Script asks Failure α

/-- Ends with a failure if the answer is one. --/
def orFail {ε α : Type} (what : String) (causes : ε → List String) (r : Except ε α) : Course α :=
  .ofExcept (r.mapError fun e => ⟨what, causes e⟩)

/-! ### Configuration -/

def configCauses (e : ConfigError) : List String := e.message :: e.causes

/-- The configuration in a file, or the one that holds without any. --/
def readConfig : Option String → Course ControllerConfig
  | none => .done .default
  | some path =>
    .ask (.read ⟨path⟩) fun (contents : Except IoError ByteArray) =>
      orFail ("Failed to load config file: " ++ path) configCauses (ControllerConfig.load contents)

/-- The text of a variable, if it has one. --/
def variableText (env : Environment) (name : String) : Option String := (env name).bind Utf8.decode?

def loadConfig (env : Environment) (path : Option String) : Course ControllerConfig := do
  let config ← readConfig path
  orFail "Invalid configuration override" configCauses (config.withOverrides (variableText env))

/-- Says whether a file is a configuration, and what it configures. --/
def validateConfig (path : String) : Course Ending :=
  .ask (.read ⟨path⟩) fun (contents : Except IoError ByteArray) => do
    let text ← orFail ("Failed to read config file: " ++ path) (fun e => [e.message])
      (ControllerConfig.textOf contents)
    match ControllerConfig.parse text with
    | .ok config =>
      return .success ("Configuration is valid\nWorking directory: " ++ config.workingDir.text ++
        "\nGit credentials root: " ++ config.gitCredentialsRoot.text ++ "\n")
    | .error e => return ⟨1, "Configuration error: " ++ e.message ++ "\n", ""⟩

/-! ### The cluster -/

/-- The variable that names the files that describe the cluster. --/
def clusterVariable : String := "KUBECONFIG"

/-- The variable that names the home of who calls the program. --/
def homeVariable : String := "HOME"

/-- The file that describes the cluster when no variable names one. --/
def homeClusterFile (env : Environment) : Path :=
  ((Path.mk ((env homeVariable).elim "/root" Utf8.lossy)).join ".kube").join "config"

def clusterFiles (env : Environment) : List Path :=
  match (((env clusterVariable).elim "" Utf8.lossy).splitOn ":").filter (!·.isEmpty) with
  | [] => [homeClusterFile env]
  | files => files.map .mk

/-- What is said when the cluster is not described, neither around the program nor in a file. --/
def noCluster (p : Path) (e : IoError) : ServiceError :=
  .internal ("Failed to infer configuration: failed to infer config: in-cluster: (failed to read an incluster " ++
    "environment variable: environment variable not found), kubeconfig: (failed to read kubeconfig from '" ++
    quoted p.text ++ "': " ++ e.message ++ ")")

def findCluster : List Path → Course Unit
  | [] => .done ()
  | p :: rest =>
    .ask (.read p) fun (contents : Except IoError ByteArray) =>
      match contents with
      | .ok _ => findCluster rest
      | .error e => .fail ⟨"Failed to connect to Kubernetes", [(noCluster p e).message]⟩

/-! ### Runs -/

/-- What is shown of a run that is ready. --/
def connectionText (n : Connection) : String :=
  "Working directory: " ++ n.directory.text ++ "\nRunner: " ++ n.runner.program ++ " " ++
    String.intercalate " " n.runner.arguments ++ "\n"

def execute (n : Connection) : Course Ending :=
  .ask (.execute n.runner) fun (r : Except RunnerError String) =>
    match r with
    | .ok output => .done (.success (connectionText n ++ output ++ "\n"))
    | .error e => .done (.failed (connectionText n) ⟨"ansible-runner failed", e.message :: e.causes⟩)

def connectRun (config : ControllerConfig) (name : String) : Course Connection :=
  .ask (.getRun name) fun (found : Except ServiceError AnsibleRun) => do
    let run ← orFail ("Failed to get AnsibleRun " ++ name) (fun e => [e.message]) found
    .ask (.connect config run) fun (r : Except ConnectError Connection) =>
      orFail ("Failed to connect AnsibleRun " ++ name) (fun e => e.message :: e.causes) r

def Invocation.perform (env : Environment) : Invocation → Course Ending
  | .validateConfig path => CommandLine.validateConfig path
  | .connect config name executes => do
    let config ← loadConfig env config
    findCluster (clusterFiles env)
    let n ← connectRun config name
    if executes then execute n else return .success (connectionText n)

/-- What the program does when it is called with `words`. --/
def course (env : Environment) (words : List String) : Course Ending :=
  match Invocation.read env words with
  | .ok i => i.perform env
  | .error stop => .done (stop.ending env)

/-- The variables that the program itself looks at. --/
def variableNames : List String :=
  configFlag.environmentName.toList ++
    [ControllerConfig.workingDirVariable, ControllerConfig.gitCredentialsRootVariable, clusterVariable, homeVariable]

def ending : Except Failure Ending → Ending
  | .ok e => e
  | .error f => .failed "" f

end CommandLine
end AnsibleStaging
