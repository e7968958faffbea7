import AnsibleStaging.ApiServer.ControlPlane
import AnsibleStaging.CommandLine.Program

/-! The program on this machine. Files are read here, but nobody takes requests to an API server, so connecting ends
    where the run is looked up and no process is ever started. -/

namespace AnsibleStaging
namespace Machine
open CommandLine

/-- What the host says of a call that failed. --/
def ioError : IO.Error → IoError
  | .noFileOrDirectory _ _ _ => .host .noEntry
  | .permissionDenied _ _ _ => .host .accessDenied
  | .inappropriateType _ _ _ => .host .isDirectory
  | e => .reported .other e.toString

def readFile (p : Path) : IO (Except IoError ByteArray) := do
  try return .ok (← IO.FS.readBinFile p.text) catch e => return .error (ioError e)

/-- What comes of a request to an API server that is not there. --/
def unanswered (_ : ApiServer.Request) : Id (Except String ApiServer.Response) := .error ApiServer.noConnection

def answer : (a : Ask) → IO a.Reply
  | .read p => readFile p
  | .getRun name => return ((ApiServer.getRun name).perform unanswered).run
  | .connect _ _ => return .error .cancelled
  | .execute _ => return .error (.io (.reported .unsupported "no process can be started"))

/-- The values of the variables that the program looks at. --/
def environment : IO Environment := do
  let values ← variableNames.mapM fun name => do return (name, (← IO.getEnv name).map String.toUTF8)
  return fun name => (values.lookup name).join

end Machine
end AnsibleStaging

open AnsibleStaging in
def main (words : List String) : IO UInt32 := do
  let env ← Machine.environment
  let e := CommandLine.ending (← (CommandLine.course env words).perform Machine.answer)
  IO.print e.output
  IO.eprint e.errors
  return e.code.toUInt32
