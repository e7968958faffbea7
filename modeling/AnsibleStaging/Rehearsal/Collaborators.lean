import AnsibleStaging.Connect.Builder
import AnsibleStaging.Launch.Host
import AnsibleStaging.Playbook.Fetch
import AnsibleStaging.Rehearsal.Setting

/-! Connecting against collaborators held in memory. Every call is noted before it does its work, so the notes
    show what was asked for and in which order, and a chosen call can make the caller cancel. -/

namespace AnsibleStaging
namespace Rehearsal
namespace Setting

def onStorage {α : Type} (a : FileAction Storage α) : FileAction State α := fun s =>
  let (r, storage) := a s.storage
  (r, { s with storage })

def storage (w : Setting) : FileSystem Storage := w.faults.overlay Storage.fileSystem

def files (w : Setting) : FileSystem State where
  makeDirs p m s := onStorage (w.storage.makeDirs p m) (w.note (.makeDirs p m) s)
  write p d m s := onStorage (w.storage.write p d m) (w.note (.write p m d.size) s)
  read p s := onStorage (w.storage.read p) (w.note (.read p) s)

/-- Makes requests to a planned API server and notes them. --/
def exchange {α : Type} (w : Setting) (server : PlannedServer) (e : ApiServer.Exchange ServiceError α) (s : State) :
    Option (Except ServiceError α) × State :=
  e.run (fun r s => (some (server.answer r), w.note (.request r) s)) s

/-- Notes a call and fails if a failure is planned for it. --/
def planned {α : Type} (w : Setting) (e : Event) (failure : Option ServiceError) (good : Except ServiceError α)
    (s : State) : Option (Except ServiceError α) × State :=
  (some (failure.elim good .error), w.note e s)

def secret (w : Setting) (key : SecretKey) : State → Option (Except ServiceError ByteArray) × State :=
  match w.server with
  | some server => w.exchange server (ApiServer.getKey key)
  | none => w.planned (.secret key) w.secretFailure (w.secrets.get key)

def track (w : Setting) (r : ManagedResource) : State → Option (Except ServiceError Unit) × State :=
  match w.server with
  | some server => w.exchange server (ApiServer.track r)
  | none => w.planned (.track r.kind r.name r.uid.text) w.trackFailure (.ok ())

/-- The configuration that is planned under a name. --/
def config (w : Setting) (name : String) : Except ServiceError ProviderConfig :=
  match w.configs.lookup name with
  | some c => .ok c
  | none => .error (.notFound ("providerconfigs " ++ quoted name))

def providerConfig (w : Setting) (name : String) : State → Option (Except ServiceError ProviderConfig) × State :=
  match w.server with
  | some server => w.exchange server (ApiServer.getProviderConfig name)
  | none => w.planned (.providerConfig name) w.configFailure (w.config name)

def unreachable {σ : Type} : Web σ := fun u s =>
  (.error ("error sending request for url (" ++ u.withoutLogin.text ++ ")"), s)

def fetch (w : Setting) (f : PlannedFetch) : PlaybookFetcher State := fun locator s =>
  let answer := match f with
    | .content data => some (.ok data)
    | .failure why => some (.error (.request why))
    | .pending => none
  (answer, w.note (.fetch locator) s)

/-! ### Tools -/

def host (w : Setting) (s : State) : HostTree :=
  match s.storage with
  | .memory _ => w.machine
  | .host t => t

def factory (w : Setting) (t : PlannedTools) : ToolFactory State where
  tools dir s := w.note (.tools dir) s
  initRunner dir run config s :=
    (t.initFailure.elim (.ok (.plain run.uid dir config.name "mock-runner")) fun why => .error (.invalidConfiguration why),
      w.note .initRunner s)
  installGalaxy _ config s :=
    (t.galaxyFailure.elim (.ok ()) fun why => .error (.galaxyFailed why),
      w.note (.installGalaxy config.settings.requirements.isSome) s)

/-! ### The connector -/

def services (w : Setting) : Services State := ⟨State.cancelled, w.secret, w.track, w.providerConfig⟩

def platform (w : Setting) : Platform State := ⟨w.files, unreachable, fun s => (w.host s).launch⟩

/-- Builds a connector. Those who are planned for are chosen, besides what else is. --/
def builder (w : Setting) (choices : List (BuildChoice State)) : ConnectorBuilder State :=
  .ofChoices w.services (choices ++ .files w.files :: (w.fetcher.map fun f => .fetcher (w.fetch f)).toList ++
    (w.tools.map fun t => .factory (w.factory t)).toList)

def collaborators (w : Setting) (choices : List (BuildChoice State)) : Collaborators State :=
  (w.builder choices).collaborators w.platform

end Setting
end Rehearsal
end AnsibleStaging
