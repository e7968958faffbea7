import AnsibleStaging.FileSystem.Basic
import AnsibleStaging.Resource.Metadata

/-! The handle on a prepared run: the tool to call, its arguments and environment, and the directory it is
    bound to. -/

namespace AnsibleStaging

structure Command where
  program : String
  arguments : List String
  directory : Path
  environment : List (String × String)
deriving DecidableEq

inductive RunnerError where
  | io (e : IoError)
  | invalidConfiguration (why : String)
  | galaxyFailed (output : String)
  | runFailed (output : String)
deriving DecidableEq

namespace RunnerError

def message : RunnerError → String
  | io e => "IO error: " ++ e.message
  | invalidConfiguration why => "invalid runner configuration: " ++ why
  | galaxyFailed output => "ansible-galaxy install failed: " ++ output
  | runFailed output => "ansible-runner failed: " ++ output

end RunnerError

/-- The texts along the causes of a failure, outermost first. --/
abbrev Causes := List String

def RunnerError.causes : RunnerError → Causes
  | .io e => [e.message]
  | _ => []

/-- One invocation of the runner, bound to a directory and to the configuration it was made with. --/
structure Runner where
  uid : Uid
  directory : Path
  providerConfig : String
  program : String
  arguments : List String
  environment : List (String × String)
  checkMode : Bool
deriving DecidableEq

namespace Runner

def plain (uid : Uid) (directory : Path) (providerConfig program : String) : Runner :=
  ⟨uid, directory, providerConfig, program, [], [], false⟩

def withArguments (r : Runner) (arguments : List String) : Runner := { r with arguments }

def command (r : Runner) : Command := ⟨r.program, r.arguments, r.directory, r.environment⟩

end Runner
end AnsibleStaging
