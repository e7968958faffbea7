import AnsibleStaging.FileSystem.Basic
import AnsibleStaging.Json.Decode
import AnsibleStaging.Kdl.Reader
import AnsibleStaging.Text.Utf8

/-! The configuration of the controller. A document may hold one section for the controller and one for the
    runner, in either order. In a section the last child of a name counts, though each has to be well formed;
    everything the configuration does not know is passed over. Overrides come after the document. -/

namespace AnsibleStaging

structure RunnerConfig where
  program : String
  galaxyProgram : String
  collectionsPath : Option Path
deriving DecidableEq

structure ControllerConfig where
  workingDir : Path
  gitCredentialsRoot : Path
  runner : RunnerConfig
deriving DecidableEq

inductive ValueProblem where
  | empty
  | notAbsolute (value : String)
deriving DecidableEq

def ValueProblem.message : ValueProblem → String
  | empty => "must not be empty"
  | notAbsolute value => value ++ " is not an absolute path"

inductive ConfigError where
  | parse
  | missingField (field : String)
  | invalidValue (field : String) (problem : ValueProblem)
  | duplicate (name : String)
  | io (e : IoError)
deriving DecidableEq

namespace ConfigError

/-- All that is said of a text that is no document. --/
def parseMessage : String := "Failed to parse KDL document"

def message : ConfigError → String
  | parse => "KDL parse error: " ++ parseMessage
  | missingField field => "missing required field: " ++ field
  | invalidValue field problem => "invalid value for " ++ field ++ ": " ++ problem.message
  | duplicate name => "duplicate definition: " ++ name
  | io e => "IO error: " ++ e.message

def causes : ConfigError → List String
  | parse => [parseMessage]
  | io e => [e.message]
  | _ => []

end ConfigError

namespace RunnerConfig
open Decode

def default : RunnerConfig := ⟨"ansible-runner", "ansible-galaxy", none⟩

instance : Inhabited RunnerConfig := ⟨default⟩

def decode : Decoder RunnerConfig :=
  record "RunnerConfig" .apart
    (fun o => do
      let program ← field? o "binary" text
      let collections ← field o "collections_path" (nullable pathText) none
      let galaxy ← field? o "galaxy_binary" text
      return ⟨← require "binary" program, ← require "galaxy_binary" galaxy, collections.map .mk⟩)
    (do
      let whole := sizedName "RunnerConfig" 3
      let program ← requiredItem whole text
      let galaxy ← requiredItem whole text
      let collections ← requiredItem whole (nullable pathText)
      return ⟨program, galaxy, collections.map .mk⟩)

def encode (c : RunnerConfig) : Json :=
  Encode.object [("binary", .str c.program), ("galaxy_binary", .str c.galaxyProgram),
    ("collections_path", c.collectionsPath.elim .null fun p => .str p.text)]

end RunnerConfig

namespace ControllerConfig
open Decode

def default : ControllerConfig := ⟨⟨"/ansibleDir"⟩, ⟨"/tmp/ansibleDir"⟩, .default⟩

instance : Inhabited ControllerConfig := ⟨default⟩

def decode : Decoder ControllerConfig :=
  record "ControllerConfig" .apart
    (fun o => do
      let git ← field? o "git_credentials_root" pathText
      let runner ← field? o "runner" RunnerConfig.decode
      let working ← field? o "working_dir" pathText
      let working ← require "working_dir" working
      let git ← require "git_credentials_root" git
      return ⟨⟨working⟩, ⟨git⟩, ← require "runner" runner⟩)
    (do
      let whole := sizedName "ControllerConfig" 3
      let working ← requiredItem whole pathText
      let git ← requiredItem whole pathText
      let runner ← requiredItem whole RunnerConfig.decode
      return ⟨⟨working⟩, ⟨git⟩, runner⟩)

def encode (c : ControllerConfig) : Json :=
  Encode.object [("working_dir", .str c.workingDir.text), ("git_credentials_root", .str c.gitCredentialsRoot.text),
    ("runner", c.runner.encode)]

/-! ### The document -/

/-- The text that a node is given as its first argument. --/
def requiredText (field : String) (n : Kdl.Node) : Except ConfigError String :=
  match n.firstArgument?.bind Kdl.Value.string? with
  | none => .error (.missingField field)
  | some s => if s.isEmpty then .error (.invalidValue field .empty) else .ok s

def absolutePath (field value : String) : Except ConfigError Path :=
  if (Path.mk value).isAbsolute then .ok ⟨value⟩ else .error (.invalidValue field (.notAbsolute value))

/-- The absolute path that a node is given as its first argument. --/
def requiredPath (field : String) (n : Kdl.Node) : Except ConfigError Path :=
  requiredText field n >>= absolutePath field

def takeControllerChild (c : ControllerConfig) (n : Kdl.Node) : Except ConfigError ControllerConfig :=
  if n.name = "working-dir" then
    (requiredPath "controller.working-dir" n).map fun p => { c with workingDir := p }
  else if n.name = "git-credentials-root" then
    (requiredPath "controller.git-credentials-root" n).map fun p => { c with gitCredentialsRoot := p }
  else .ok c

def takeRunnerChild (r : RunnerConfig) (n : Kdl.Node) : Except ConfigError RunnerConfig :=
  if n.name = "binary" then (requiredText "runner.binary" n).map fun s => { r with program := s }
  else if n.name = "galaxy-binary" then
    (requiredText "runner.galaxy-binary" n).map fun s => { r with galaxyProgram := s }
  else if n.name = "collections-path" then
    (requiredText "runner.collections-path" n).map fun s => { r with collectionsPath := some ⟨s⟩ }
  else .ok r

/-- The configuration so far, and the sections that were met. --/
structure Progress where
  config : ControllerConfig
  controllerMet : Bool
  runnerMet : Bool

/-- Takes one node of the document. A second section of a name is refused whatever it holds. --/
def takeNode (p : Progress) (n : Kdl.Node) : Except ConfigError Progress :=
  if n.name = "controller" then
    if p.controllerMet then .error (.duplicate "controller")
    else (n.children.foldlM takeControllerChild p.config).map fun c => { p with config := c, controllerMet := true }
  else if n.name = "runner" then
    if p.runnerMet then .error (.duplicate "runner")
    else
      (n.children.foldlM takeRunnerChild RunnerConfig.default).map fun r =>
        { p with config := { p.config with runner := r }, runnerMet := true }
  else .ok p

def ofDocument (doc : Kdl.Document) : Except ConfigError ControllerConfig :=
  (doc.foldlM takeNode ⟨default, false, false⟩).map (·.config)

def parse (text : String) : Except ConfigError ControllerConfig :=
  match Kdl.parse? text with
  | some doc => ofDocument doc
  | none => .error .parse

/-! ### Files and overrides -/

/-- What is said of bytes that are no text. --/
def notText : IoError := .reported .invalidData "stream did not contain valid UTF-8"

def textOf (contents : Except IoError ByteArray) : Except IoError String := do
  match Utf8.decode? (← contents) with
  | some text => .ok text
  | none => .error notText

/-- The configuration in a file, given what reading it answered. --/
def load (contents : Except IoError ByteArray) : Except ConfigError ControllerConfig := do
  parse (← (textOf contents).mapError .io)

def workingDirVariable : String := "ANSIBLERUN_WORKING_DIR"

def gitCredentialsRootVariable : String := "ANSIBLERUN_GIT_CREDENTIALS_ROOT"

/-- A path that takes the place of another one, if it is given. --/
def overridden (lookup : String → Option String) (name : String) (p : Path) : Except ConfigError Path :=
  match lookup name with
  | some value => absolutePath name value
  | none => .ok p

/-- The configuration with the directories that `lookup` gives by the names of variables. --/
def withOverrides (c : ControllerConfig) (lookup : String → Option String) : Except ConfigError ControllerConfig := do
  let working ← overridden lookup workingDirVariable c.workingDir
  let git ← overridden lookup gitCredentialsRootVariable c.gitCredentialsRoot
  return { c with workingDir := working, gitCredentialsRoot := git }

end ControllerConfig
end AnsibleStaging
