import AnsibleStaging.Connect.Collaborators
import AnsibleStaging.Connect.Connector
import AnsibleStaging.Launch.Outcome

/-! Building a connector. Services are always given; a configuration, directories, files, a fetcher and tools may be
    chosen, the later choice standing for the earlier. What is not chosen is settled only when the connector is built:
    the files are those of the platform, the fetcher looks where a locator points, and the tools are those of the
    configuration, whichever directories it has by then. -/

namespace AnsibleStaging
variable {σ : Type}

/-- Those without whom no connector is built. --/
structure Services (σ : Type) where
  cancelled : σ → Bool
  secret : SecretKey → σ → Option (Except ServiceError ByteArray) × σ
  track : ManagedResource → σ → Option (Except ServiceError Unit) × σ
  providerConfig : String → σ → Option (Except ServiceError ProviderConfig) × σ

/-- What there is where nothing else is chosen. --/
structure Platform (σ : Type) where
  files : FileSystem σ
  web : Web σ
  launch : σ → Launcher

abbrev PlaybookFetcher (σ : Type) := String → σ → Option (Except FetchError ByteArray) × σ

def PlaybookFetcher.located (web : Web σ) (files : FileSystem σ) : PlaybookFetcher σ := fun locator s =>
  Collaborators.completed (Locator.fetch web files locator s)

/-- Makes the tools of a directory and answers for them. --/
structure ToolFactory (σ : Type) where
  tools : Path → σ → σ
  initRunner : Path → AnsibleRun → ProviderConfig → σ → Except RunnerError Runner × σ
  installGalaxy : Path → ProviderConfig → σ → Except RunnerError Unit × σ

/-- The factory of tools with these settings, whose processes are started by `launch`. --/
def ToolFactory.ofSettings (launch : σ → Launcher) (settings : ToolSettings) : ToolFactory σ where
  tools _ s := s
  initRunner dir run config s := ((Tools.mk dir settings).init run config, s)
  installGalaxy dir config s := ((Tools.mk dir settings).installGalaxy (launch s) config, s)

inductive BuildChoice (σ : Type) where
  | config (c : ControllerConfig)
  | workingDir (p : Path)
  | gitCredentialsRoot (p : Path)
  | files (f : FileSystem σ)
  | fetcher (f : PlaybookFetcher σ)
  | factory (f : ToolFactory σ)

structure ConnectorBuilder (σ : Type) where
  services : Services σ
  config : ControllerConfig
  files : Option (FileSystem σ)
  fetcher : Option (PlaybookFetcher σ)
  factory : Option (ToolFactory σ)

namespace ConnectorBuilder

def new (services : Services σ) : ConnectorBuilder σ := ⟨services, .default, none, none, none⟩

/-- A configuration also takes the place of the directories that were chosen before it. --/
def choose (b : ConnectorBuilder σ) : BuildChoice σ → ConnectorBuilder σ
  | .config c => { b with config := c }
  | .workingDir p => { b with config := { b.config with workingDir := p } }
  | .gitCredentialsRoot p => { b with config := { b.config with gitCredentialsRoot := p } }
  | .files f => { b with files := some f }
  | .fetcher f => { b with fetcher := some f }
  | .factory f => { b with factory := some f }

def ofChoices (services : Services σ) (choices : List (BuildChoice σ)) : ConnectorBuilder σ :=
  choices.foldl choose (new services)

def connector (b : ConnectorBuilder σ) (environment : Environment) : Connector := .ofConfig b.config environment

def collaborators (b : ConnectorBuilder σ) (p : Platform σ) : Collaborators σ :=
  let files := b.files.getD p.files
  let factory := b.factory.getD (.ofSettings p.launch (.ofConfig b.config))
  { cancelled := b.services.cancelled
    files
    secret := b.services.secret
    track := b.services.track
    providerConfig := b.services.providerConfig
    fetch := b.fetcher.getD (.located p.web files)
    tools := factory.tools
    initRunner := factory.initRunner
    installGalaxy := factory.installGalaxy }

end ConnectorBuilder
end AnsibleStaging
