import AnsibleStaging.Playbook.FetchError
import AnsibleStaging.Resource.AnsibleRun
import AnsibleStaging.Resource.ProviderConfig
import AnsibleStaging.Runner.Handle
import AnsibleStaging.Script
import AnsibleStaging.Service

/-! The calls by which a run is prepared. Everything that staging touches outside itself is asked for through
    one of them. -/

namespace AnsibleStaging

inductive Call where
  /-- Whether the caller has cancelled. --/
  | cancelled
  | makeDirs (p : Path) (mode : FileMode)
  | write (p : Path) (data : ByteArray) (mode : FileMode)
  | read (p : Path)
  /-- The value under one key of a secret. --/
  | secret (key : SecretKey)
  /-- Records that a resource uses its ProviderConfig. --/
  | track (resource : ManagedResource)
  | providerConfig (name : String)
  /-- The playbook that a locator names. --/
  | fetch (locator : String)
  /-- Prepares the tools for a directory. --/
  | tools (dir : Path)
  /-- Binds a runner to a directory, a run and its configuration. --/
  | initRunner (dir : Path) (run : AnsibleRun) (config : ProviderConfig)
  /-- Installs the requirements that the configuration declares. --/
  | installGalaxy (dir : Path) (config : ProviderConfig)

def Call.Reply : Call → Type
  | cancelled => Bool
  | makeDirs _ _ => Except IoError Unit
  | write _ _ _ => Except IoError Unit
  | read _ => Except IoError ByteArray
  | secret _ => Except ServiceError ByteArray
  | track _ => Except ServiceError Unit
  | providerConfig _ => Except ServiceError ProviderConfig
  | fetch _ => Except FetchError ByteArray
  | tools _ => Unit
  | initRunner _ _ _ => Except RunnerError Runner
  | installGalaxy _ _ => Except RunnerError Unit

abbrev calls : Interface := ⟨Call, Call.Reply⟩

/-- A script over the calls by which a run is prepared. --/
abbrev Task (ε α : Type) := Script calls ε α

namespace Task

def makeDirs (p : Path) (mode : FileMode) : Task IoError Unit := .ask (.makeDirs p mode) .ofExcept

def write (p : Path) (data : ByteArray) (mode : FileMode) : Task IoError Unit :=
  .ask (.write p data mode) .ofExcept

def read (p : Path) : Task IoError ByteArray := .ask (.read p) .ofExcept

def secret (key : SecretKey) : Task ServiceError ByteArray := .ask (.secret key) .ofExcept

def track (resource : ManagedResource) : Task ServiceError Unit := .ask (.track resource) .ofExcept

def providerConfig (name : String) : Task ServiceError ProviderConfig := .ask (.providerConfig name) .ofExcept

def fetch (locator : String) : Task FetchError ByteArray := .ask (.fetch locator) .ofExcept

def tools {ε : Type} (dir : Path) : Task ε Unit := .ask (.tools dir) .done

def initRunner (dir : Path) (run : AnsibleRun) (config : ProviderConfig) : Task RunnerError Runner :=
  .ask (.initRunner dir run config) .ofExcept

def installGalaxy (dir : Path) (config : ProviderConfig) : Task RunnerError Unit := .ask (.installGalaxy dir config) .ofExcept

end Task
end AnsibleStaging
