import AnsibleStaging.ApiServer.ObjectMeta
import AnsibleStaging.ApiServer.Status
import AnsibleStaging.Resource.AnsibleRun
import AnsibleStaging.Resource.ProviderConfig
import AnsibleStaging.Text.Base64

/-! The control plane behind its API server: runs and ProviderConfigs are read, secrets are looked up, and the usage
    of a ProviderConfig is recorded under the uid of the resource that uses it. -/

namespace AnsibleStaging
namespace ApiServer

/-- The version of the interface in which runs and their configurations are kept. --/
def apiVersion : String := "ansible.crossplane.io/v1alpha1"

def collection (plural : String) : String := "/apis/" ++ apiVersion ++ "/" ++ plural

def secrets (space : String) : String := "/api/v1/namespaces/" ++ space ++ "/secrets"

def getResource {α : Type} (decode : Decoder α) (kind plural name : String) : Exchange ServiceError α := do
  let v ← send (getRequest (collection plural) name)
  match readObject? v with
  | none => .fail undecodable
  | some v =>
    .ofExcept ((decode v).mapError fun e =>
      .invalidInput ("cannot decode " ++ kind ++ " " ++ name ++ ": " ++ e.message))

def getRun (name : String) : Exchange ServiceError AnsibleRun :=
  getResource AnsibleRun.decode "AnsibleRun" "ansibleruns" name

def getProviderConfig (name : String) : Exchange ServiceError ProviderConfig :=
  getResource ProviderConfig.decode "ProviderConfig" "providerconfigs" name

/-! ### Secrets -/

/-- The bytes that a value of a secret stands for. --/
def secretValue? : Json → Option ByteArray
  | .null => some .empty
  | .str s => Base64.decode? s
  | _ => none

def secretData? (v : Json) : Option (List (String × ByteArray)) :=
  match v with
  | .null => some []
  | .obj o => o.mapM fun f => (secretValue? f.2).map fun b => (f.1, b)
  | _ => none

/-- A part that must have one text where it is there. --/
def isNamed (o : Fields) (part text : String) : Bool :=
  match Fields.get? o part with
  | none => true
  | some (.str s) => s == text
  | some _ => false

/-- The parts of a secret besides its data. --/
def isSecret : Check := Check.record
  [("immutable", Check.isTruth), ("metadata", Check.isObjectMeta), ("stringData", Check.mapOf Check.isText),
    ("type", Check.isText)]

/-- The values of the secret that a value describes. --/
def readSecret? (v : Json) : Option (List (String × ByteArray)) :=
  match v with
  | .obj o =>
    if isNamed o "apiVersion" "v1" && isNamed o "kind" "Secret" && isSecret v then
      secretData? ((Fields.get? o "data").getD .null)
    else none
  | _ => none

/-- The value under one key of a secret. --/
def getKey (key : SecretKey) : Exchange ServiceError ByteArray := do
  let v ← send (getRequest (secrets key.space) key.name)
  match readSecret? v with
  | none => .fail undecodable
  | some values =>
    match values.lookup key.key with
    | some value => return value
    | none => .fail (.notFound ("key " ++ key.key ++ " in secret " ++ key.text))

/-! ### Usage -/

/-- The label that links a usage to its configuration. --/
def configLabel : String := "crossplane.io/provider-config"

/-- What says that a resource uses the configuration `config`. --/
def usage (r : ManagedResource) (config : String) : Json :=
  Encode.object
    [("apiVersion", .str apiVersion),
      ("kind", .str "ProviderConfigUsage"),
      ("metadata", Encode.object
        [("name", .str r.uid.text),
          ("labels", Encode.object [(configLabel, .str config)]),
          ("ownerReferences", .arr [Encode.object
            [("apiVersion", .str apiVersion), ("kind", .str r.kind), ("name", .str r.name),
              ("uid", .str r.uid.text), ("controller", .bool true), ("blockOwnerDeletion", .bool true)]])]),
      ("providerConfigRef", Encode.object [("name", .str config)]),
      ("resourceRef", Encode.object
        [("apiVersion", .str apiVersion), ("kind", .str r.kind), ("name", .str r.name)])]

def namedConfig (r : ManagedResource) : Except ServiceError String :=
  match r.providerConfig with
  | none => .error (.invalidInput (r.kind ++ " " ++ r.name ++ " has no providerConfigRef"))
  | some name =>
    if name.isEmpty then .error (.invalidInput (r.kind ++ " " ++ r.name ++ " has no providerConfigRef")) else .ok name

def track (r : ManagedResource) : Exchange ServiceError Unit := do
  let config ← .ofExcept (namedConfig r)
  let v ← send (applyRequest (collection "providerconfigusages") r.uid.text (usage r config))
  if (readObject? v).isNone then .fail undecodable

end ApiServer
end AnsibleStaging
