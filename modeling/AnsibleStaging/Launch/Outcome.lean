import AnsibleStaging.Runner.Tools

/-! What becomes of a process that a tool starts. A tool has failed unless its process ended well, and either way
    its output is what it wrote, errors last. -/

namespace AnsibleStaging

/-- How a process ended and what it wrote. --/
structure Outcome where
  success : Bool
  output : ByteArray
  errors : ByteArray
deriving DecidableEq

namespace Outcome

def text (o : Outcome) : String := Utf8.lossy o.output ++ "\n" ++ Utf8.lossy o.errors

end Outcome

/-- Starts a process and waits for its end. --/
abbrev Launcher := Command → Except IoError Outcome

/-- The text of a process that ended well, or the failure it stands for. --/
def Launcher.finish (launch : Launcher) (c : Command) (failed : String → RunnerError) : Except RunnerError String :=
  match launch c with
  | .error e => .error (.io e)
  | .ok o => if o.success then .ok o.text else .error (failed o.text)

def Runner.execute (launch : Launcher) (r : Runner) : Except RunnerError String :=
  launch.finish r.command .runFailed

/-- Installs the requirements that a configuration declares; without any there is nothing to do. --/
def Tools.installGalaxy (launch : Launcher) (t : Tools) (config : ProviderConfig) : Except RunnerError Unit :=
  match config.settings.requirements with
  | none => .ok ()
  | some _ => (launch.finish t.galaxyCommand .galaxyFailed).map fun _ => ()

/-- Words of a command as they are shown; one with a NUL cannot be. --/
def Command.shownWord (s : String) : String := if s.toList.contains '\x00' then "<string-with-nul>" else s

end AnsibleStaging
