import AnsibleStaging.CommandLine.Reading

/-! What the program can be called for, and the form of its command line. -/

namespace AnsibleStaging
namespace CommandLine

inductive Invocation where
  /-- Prepares a run under a configuration and perhaps executes it. --/
  | connect (config : Option String) (name : String) (execute : Bool)
  /-- Says whether a file is a configuration. --/
  | validateConfig (path : String)
deriving DecidableEq

def programName : String := "ansiblerun"

def configFlag : Flag :=
  ⟨"config", none, some "CONFIG", "Controller configuration file", some "ANSIBLERUN_CONFIG"⟩

def logFlag : Flag := .switch "log-json" "Emit logs as JSON"

def executeFlag : Flag := .switch "run" "Execute ansible-runner once connected"

def nameArgument : Argument := ⟨"NAME", "AnsibleRun name", true, false, none⟩

def pathArgument : Argument := ⟨"PATH", "Path to the configuration file", false, false, some "ansiblerun.kdl"⟩

def connectForm : Form where
  name := "connect"
  before := [programName]
  about := "Connect an AnsibleRun: stage its working directory and init the runner"
  flags := [executeFlag]
  arguments := [nameArgument]
  commands := []
  hasHelp := true

def validateForm : Form where
  name := "validate-config"
  before := [programName]
  about := "Validate a controller configuration"
  flags := []
  arguments := [pathArgument]
  commands := []
  hasHelp := true

def helpForm : Form where
  name := Form.helpName
  before := [programName]
  about := "Print this message or the help of the given subcommand(s)"
  flags := []
  arguments := [⟨"COMMAND", "Print help for the subcommand(s)", false, true, none⟩]
  commands := []
  hasHelp := false

def programForm : Form where
  name := programName
  before := []
  about := "Prepare and run AnsibleRun resources"
  flags := [configFlag, logFlag]
  arguments := []
  commands := [connectForm, validateForm, helpForm]
  hasHelp := true

/-- What is asked for by a command and what was given to it. --/
def Invocation.ofLevels? : List Level → Option Invocation
  | [program, command] => do
    if command.name = connectForm.name then
      return .connect (program.values.lookup configFlag.name) (← command.values.lookup nameArgument.name)
        (command.values.lookup executeFlag.name).isSome
    else
      return .validateConfig (← command.values.lookup pathArgument.name)
  | _ => none

/-- What the words of a command line ask for. --/
def Invocation.read (env : Environment) (words : List String) : Except Stop Invocation := do
  match Invocation.ofLevels? (← programForm.read env .start words) with
  | some i => return i
  | none => .error (.nothing programForm)

end CommandLine
end AnsibleStaging
