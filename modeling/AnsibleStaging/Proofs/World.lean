import AnsibleStaging.Connect.Builder
import AnsibleStaging.Playbook.Fetch
import AnsibleStaging.Proofs.InMemory
import AnsibleStaging.Proofs.Results

/-! A world in which only the tree changes. Secrets, configurations, the web and the tools answer always the same, and
    nobody cancels. -/

namespace AnsibleStaging
open Script

/-- Who fetches playbooks: one with a fixed answer to each locator, or one who looks where the locator points, in a web
    that stays as it is or in the tree. --/
inductive Fetcher where
  | fixed (answer : String → Except FetchError ByteArray)
  | located (web : Url → Except String WebAnswer)

def Fetcher.fetch (locator : String) (t : MemTree) : Fetcher → Except FetchError ByteArray
  | fixed answer => answer locator
  | located web => (Locator.fetch (fun u t => (web u, t)) MemTree.fileSystem locator t).1

/-- What stays as it is while the tree changes. --/
structure World where
  secret : SecretKey → Except ServiceError ByteArray
  track : ManagedResource → Except ServiceError Unit
  providerConfig : String → Except ServiceError ProviderConfig
  fetcher : Fetcher
  initRunner : Path → AnsibleRun → ProviderConfig → Except RunnerError Runner
  installGalaxy : Path → ProviderConfig → Except RunnerError Unit

namespace World

/-- All who answer the calls of a connect. --/
def collaborators (w : World) : Collaborators MemTree where
  cancelled _ := false
  files := MemTree.fileSystem
  secret key t := (some (w.secret key), t)
  track r t := (some (w.track r), t)
  providerConfig name t := (some (w.providerConfig name), t)
  fetch locator t := (some (w.fetcher.fetch locator t), t)
  tools _ t := t
  initRunner dir run config t := (w.initRunner dir run config, t)
  installGalaxy dir config t := (w.installGalaxy dir config, t)

def handler (w : World) : Handler calls MemTree := w.collaborators.handler

theorem inMemory (w : World) : InMemory w.handler id := by
  intro c t
  cases c with
  | makeDirs p m => exact Or.inl ⟨rfl, rfl⟩
  | write p d m => exact Or.inl ⟨rfl, rfl⟩
  | read p => exact MemTree.read_snd p t
  | _ => rfl

/-- A world with one configuration, in which the tools always succeed. --/
def granting (config : ProviderConfig) (playbook : ByteArray) : World where
  secret _ := .ok .empty
  track _ := .ok ()
  providerConfig _ := .ok config
  fetcher := .fixed fun _ => .ok playbook
  initRunner dir run _ := .ok (.plain run.uid dir "" "")
  installGalaxy _ _ := .ok ()

/-- The services of the world, for a connector that is built in it. --/
def services (w : World) : Services MemTree where
  cancelled _ := false
  secret key t := (some (w.secret key), t)
  track r t := (some (w.track r), t)
  providerConfig name t := (some (w.providerConfig name), t)

/-- The tree, with no web, where each process ends well. --/
def platform : Platform MemTree where
  files := MemTree.fileSystem
  web _ t := (.error "no web", t)
  launch _ _ := .ok ⟨true, .empty, .empty⟩

end World
end AnsibleStaging
