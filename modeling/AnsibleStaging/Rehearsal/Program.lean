import AnsibleStaging.CommandLine.Program
import AnsibleStaging.Rehearsal.Collaborators

/-! The program against what a rehearsal is given. -/

namespace AnsibleStaging
namespace Rehearsal
namespace Setting
open CommandLine

/-- The run that the control plane has under a name; a control plane without an API server has none. --/
def run (w : Setting) (name : String) (s : State) : Option (Except ServiceError AnsibleRun) × State :=
  match w.server with
  | some server => w.exchange server (ApiServer.getRun name) s
  | none => (some (.error (.notFound ("ansibleruns " ++ quoted name))), s)

def connect (w : Setting) (choices : List (BuildChoice State)) (env : Environment) (resource : ManagedResource)
    (s : State) : Except ConnectError Connection × State :=
  let (r, s) := (((w.builder choices).connector env).connect resource).run (w.collaborators choices).handler s
  (outcome r, s)

def answers (w : Setting) (env : Environment) : Script.Handler asks State
  | .read p, s => Collaborators.completed (w.files.read p s)
  | .getRun name, s => w.run name s
  | .connect config run, s => Collaborators.completed (w.connect [.config config] env (.run run) s)
  | .execute r, s => (some (r.execute (w.host s).launch), s)

/-- How the program ends when it is called with `words`; none if a call does not complete. --/
def perform (w : Setting) (env : Environment) (words : List String) (s : State) : Option Ending × State :=
  let (r, s) := (course env words).run (w.answers env) s
  (r.map ending, s)

end Setting
end Rehearsal
end AnsibleStaging
