import AnsibleStaging.ApiServer.ControlPlane
import AnsibleStaging.Credentials.SecretMap
import AnsibleStaging.FileSystem.Faults
import AnsibleStaging.FileSystem.Storage
import AnsibleStaging.Rehearsal.Event

/-! What a rehearsal is given. Those who are not planned for do their own work: the fetcher fetches and the tools
    start processes. With an API server, the control plane, the usage and the secrets are behind it. -/

namespace AnsibleStaging
namespace Rehearsal

/-- What changes while the calls are made. The notes stand with the latest first. --/
structure State where
  storage : Storage
  events : List Event
  cancelled : Bool

inductive PlannedFetch where
  | content (data : ByteArray)
  | failure (why : String)
  | pending

structure PlannedTools where
  initFailure : Option String
  galaxyFailure : Option String

/-- An API server: one with an answer to each request that is listed, or one that is not there. --/
inductive PlannedServer where
  | answering (answers : List (String × ApiServer.Response))
  | absent

namespace PlannedServer

/-- The answer to a request that is not listed. --/
def notListed (path : String) : ApiServer.Response :=
  ApiServer.answer 404 (ApiServer.notFoundStatus (path ++ " not found"))

/-- The listed answer to a request, under its whole target or under its path. --/
def listed (answers : List (String × ApiServer.Response)) (r : ApiServer.Request) : ApiServer.Response :=
  match answers.lookup (r.method.text ++ " " ++ r.uri), answers.lookup (r.method.text ++ " " ++ r.path) with
  | some a, _ => a
  | none, some a => a
  | none, none => notListed r.path

def answer : PlannedServer → ApiServer.Request → Except String ApiServer.Response
  | answering answers, r => .ok (listed answers r)
  | absent, _ => .error ApiServer.noConnection

end PlannedServer

/-- What stays as it is while the calls are made. --/
structure Setting where
  faults : Faults
  secrets : SecretMap
  secretFailure : Option ServiceError
  configs : List (String × ProviderConfig)
  configFailure : Option ServiceError
  trackFailure : Option ServiceError
  server : Option PlannedServer
  fetcher : Option PlannedFetch
  tools : Option PlannedTools
  /-- Where processes run when the files are held in memory. --/
  machine : HostTree
  cancelAt : Option String

namespace Setting

/-- Notes a call; the caller cancels if it is the chosen one. --/
def note (w : Setting) (e : Event) (s : State) : State :=
  { s with events := e :: s.events, cancelled := s.cancelled || (w.cancelAt.isSome && e.trigger == w.cancelAt) }

end Setting
end Rehearsal
end AnsibleStaging
