import AnsibleStaging.Resource.Metadata

/-! The resource that asks for an automation run: where its playbook comes from, the variables handed to it and
    whether it only checks. -/

namespace AnsibleStaging
open Decode

/-- Where the playbook of a run comes from: from the resource itself, or from a locator that it names. --/
inductive PlaybookSource where
  | inline
  | remote
deriving DecidableEq, Inhabited

namespace PlaybookSource

def name : PlaybookSource → String
  | inline => "Inline"
  | remote => "Remote"

def all : List PlaybookSource := [inline, remote]

def decode : Decoder PlaybookSource := variant (all.map fun s => (s.name, s))

def encode (s : PlaybookSource) : Json := .str s.name

end PlaybookSource

/-- What a run is to do. The playbook is given as its text or its locator. --/
structure RunParameters where
  source : PlaybookSource
  playbook : String
  vars : Vars
  checkMode : Bool

namespace RunParameters

def empty : RunParameters := ⟨.inline, "", .empty, false⟩

instance : Inhabited RunParameters := ⟨empty⟩

def decode : Decoder RunParameters :=
  record "AnsibleRunParameters" .apart
    (fun o => do
      let checkMode ← field o "checkMode" flag false
      let playbook ← field o "module" text ""
      let source ← field o "source" PlaybookSource.decode .inline
      let vars ← field o "vars" Decode.vars .empty
      return ⟨source, playbook, vars, checkMode⟩)
    (do
      let source ← item PlaybookSource.decode .inline
      let playbook ← item text ""
      let vars ← item Decode.vars .empty
      let checkMode ← item flag false
      return ⟨source, playbook, vars, checkMode⟩)

def encode (p : RunParameters) : Json :=
  Encode.object ([("source", p.source.encode), ("module", .str p.playbook), ("checkMode", .bool p.checkMode)] ++
    if p.vars.isEmpty then [] else [("vars", p.vars.toJson)])

end RunParameters

/-- The name of the ProviderConfig that a run refers to. --/
def decodeReference : Decoder String :=
  record "ProviderConfigReference" .apart (fun o => field o "name" text "") (item text "")

def encodeReference (name : String) : Json := Encode.object [("name", .str name)]

structure AnsibleRun where
  metadata : Metadata
  providerConfig : Option String
  parameters : RunParameters

namespace AnsibleRun

def empty : AnsibleRun := ⟨.empty, none, .empty⟩

instance : Inhabited AnsibleRun := ⟨empty⟩

def uid (r : AnsibleRun) : Uid := r.metadata.uid

def name (r : AnsibleRun) : String := r.metadata.name

def source (r : AnsibleRun) : PlaybookSource := r.parameters.source

/-- The part of a run that the user wrote. --/
def decodeSpec : Decoder (Option String × RunParameters) :=
  record "AnsibleRunSpec" .apart
    (fun o => do
      let parameters ← field o "forProvider" RunParameters.decode .empty
      let providerConfig ← field o "providerConfigRef" (nullable decodeReference) none
      return (providerConfig, parameters))
    (do
      let providerConfig ← item (nullable decodeReference) none
      let parameters ← item RunParameters.decode .empty
      return (providerConfig, parameters))

def decode : Decoder AnsibleRun :=
  record "AnsibleRun" .apart
    (fun o => do
      let metadata ← field o "metadata" Metadata.decode .empty
      let (providerConfig, parameters) ← field o "spec" decodeSpec (none, .empty)
      return ⟨metadata, providerConfig, parameters⟩)
    (do
      let metadata ← item Metadata.decode .empty
      let (providerConfig, parameters) ← item decodeSpec (none, .empty)
      return ⟨metadata, providerConfig, parameters⟩)

def encode (r : AnsibleRun) : Json :=
  Encode.object
    [("metadata", r.metadata.encode),
      ("spec", Encode.object (("forProvider", r.parameters.encode) ::
        Encode.optional "providerConfigRef" encodeReference r.providerConfig))]

end AnsibleRun

structure OtherResource where
  kind : String
  uid : Uid
  name : String
  providerConfig : Option String
deriving DecidableEq

/-- A resource that the controller is asked to connect. --/
inductive ManagedResource where
  | run (r : AnsibleRun)
  | other (o : OtherResource)

namespace ManagedResource

def kind : ManagedResource → String
  | run _ => "AnsibleRun"
  | other o => o.kind

def uid : ManagedResource → Uid
  | run r => r.uid
  | other o => o.uid

def name : ManagedResource → String
  | run r => r.name
  | other o => o.name

def providerConfig : ManagedResource → Option String
  | run r => r.providerConfig
  | other o => o.providerConfig

end ManagedResource
end AnsibleStaging
