import AnsibleStaging.Connect.Call

/-! Those who answer the calls of a connect, on a common state. -/

namespace AnsibleStaging

structure Collaborators (σ : Type) where
  cancelled : σ → Bool
  files : FileSystem σ
  secret : SecretKey → σ → Option (Except ServiceError ByteArray) × σ
  track : ManagedResource → σ → Option (Except ServiceError Unit) × σ
  providerConfig : String → σ → Option (Except ServiceError ProviderConfig) × σ
  fetch : String → σ → Option (Except FetchError ByteArray) × σ
  tools : Path → σ → σ
  initRunner : Path → AnsibleRun → ProviderConfig → σ → Except RunnerError Runner × σ
  installGalaxy : Path → ProviderConfig → σ → Except RunnerError Unit × σ

namespace Collaborators
variable {σ : Type}

def completed {α : Type} (r : α × σ) : Option α × σ := (some r.1, r.2)

/-- Hands each call to the one who answers it. --/
def handler (w : Collaborators σ) : Script.Handler calls σ
  | .cancelled, s => (some (w.cancelled s), s)
  | .makeDirs p m, s => completed (w.files.makeDirs p m s)
  | .write p d m, s => completed (w.files.write p d m s)
  | .read p, s => completed (w.files.read p s)
  | .secret key, s => w.secret key s
  | .track r, s => w.track r s
  | .providerConfig name, s => w.providerConfig name s
  | .fetch locator, s => w.fetch locator s
  | .tools dir, s => (some (), w.tools dir s)
  | .initRunner dir run config, s => completed (w.initRunner dir run config s)
  | .installGalaxy dir config, s => completed (w.installGalaxy dir config s)

end Collaborators
end AnsibleStaging
