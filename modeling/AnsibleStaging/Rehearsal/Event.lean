import AnsibleStaging.ApiServer.Request
import AnsibleStaging.FileSystem.Basic
import AnsibleStaging.Resource.Credentials

/-! The calls that a rehearsal notes. Each has a line by which it is shown, and some can be chosen. -/

namespace AnsibleStaging
namespace Rehearsal

inductive Event where
  | makeDirs (p : Path) (mode : FileMode)
  | write (p : Path) (mode : FileMode) (size : Nat)
  | read (p : Path)
  | secret (key : SecretKey)
  | track (kind name uid : String)
  | providerConfig (name : String)
  | fetch (locator : String)
  | tools (dir : Path)
  | initRunner
  | installGalaxy (required : Bool)
  | request (r : ApiServer.Request)

def Event.line : Event → String
  | makeDirs p m => "mkdir " ++ p.text ++ " " ++ m.octal
  | write p m n => "write " ++ p.text ++ " " ++ m.octal ++ " " ++ toString n
  | read p => "read " ++ p.text
  | secret key => "secret " ++ key.text
  | track kind name uid => "track " ++ kind ++ " " ++ name ++ " " ++ uid
  | providerConfig name => "config " ++ name
  | fetch locator => "fetch " ++ locator
  | tools dir => "runner " ++ dir.text
  | initRunner => "init"
  | installGalaxy required => "galaxy " ++ toString required
  | request r => r.method.text ++ " " ++ r.uri

/-- What a call can be chosen by: calls on files by their line, the others by their sort. --/
def Event.trigger : Event → Option String
  | e@(makeDirs _ _) => some e.line
  | e@(write _ _ _) => some e.line
  | e@(read _) => some e.line
  | secret _ => some "secret"
  | track _ _ _ => some "track"
  | providerConfig _ => some "config"
  | fetch _ => some "fetch"
  | tools _ => none
  | initRunner => some "init"
  | installGalaxy _ => some "galaxy"
  | request _ => none

end Rehearsal
end AnsibleStaging
