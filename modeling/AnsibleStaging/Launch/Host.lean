import AnsibleStaging.Launch.Outcome
import AnsibleStaging.Launch.Shell

/-! Processes on a host that has a few small programs. A process starts in its directory, which must be there;
    a program is found by its path, or by its name where programs are kept. -/

namespace AnsibleStaging
namespace HostTree

def programs : List String := ["sh", "echo", "true", "false", "printf", "cat", "pwd"]

def programPlaces : List String := ["/bin/", "/usr/bin/"]

def findProgram (t : HostTree) (c : Command) : Except HostCode String :=
  if c.program.toList.contains '/' then
    match programPlaces.findSome? fun place => programs.find? fun p => place ++ p == c.program with
    | some p => .ok p
    | none =>
      match t.lookUp (c.directory.join c.program) with
      | .ok _ => .error .accessDenied
      | .error (.host code) => .error code
      | .error _ => .error .noEntry
  else if programs.contains c.program then .ok c.program
  else .error .noEntry

def givenTexts (c : Command) : List String :=
  c.program :: c.directory.text :: (c.arguments ++ c.environment.flatMap fun v => [v.1, v.2])

def runShell (s : Shell.Surroundings) : List String → Outcome
  | "-c" :: script :: _ =>
    let st := Shell.run s script
    ⟨st.status = 0, st.output.toByteArray, st.errors.toByteArray⟩
  | name :: _ => ⟨false, .empty, ("/bin/sh: 0: cannot open " ++ name ++ ": No such file\n").toUTF8⟩
  | [] => ⟨true, .empty, .empty⟩

def runProgram (s : Shell.Surroundings) (program : String) (arguments : List String) : Outcome :=
  match program, arguments with
  | "sh", args => runShell s args
  | "echo", "-n" :: args => ⟨true, (String.intercalate " " args).toUTF8, .empty⟩
  | "echo", args => ⟨true, (String.intercalate " " args ++ "\n").toUTF8, .empty⟩
  | name, args =>
    let st := Shell.perform s (name :: args) false ⟨[], [], 0, false⟩
    ⟨st.status = 0, st.output.toByteArray, st.errors.toByteArray⟩

def launch (t : HostTree) : Launcher := fun c =>
  if (givenTexts c).any fun s => s.toList.contains '\x00' then
    .error (.reported .invalidInput "nul byte found in provided data")
  else do
    let place ← t.resolve c.directory
    (t.requireDir place).mapError .host
    let program ← (t.findProgram c).mapError .host
    .ok (runProgram ⟨t, ⟨placeText place⟩, c.environment⟩ program c.arguments)

end HostTree
end AnsibleStaging
