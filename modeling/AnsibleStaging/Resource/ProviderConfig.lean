import AnsibleStaging.Resource.Credentials

/-! The configuration that runs share: the credential files to write, the connection to a source-control host
    and the galaxy requirements to install. -/

namespace AnsibleStaging
open Decode

structure ProviderSettings where
  credentials : List CredentialEntry
  git : Option GitConnection
  requirements : Option String
deriving DecidableEq

namespace ProviderSettings

def empty : ProviderSettings := ⟨[], none, none⟩

instance : Inhabited ProviderSettings := ⟨empty⟩

def decode : Decoder ProviderSettings :=
  record "ProviderConfigSpec" .apart
    (fun o => do
      let credentials ← field o "credentials" (list CredentialEntry.decode) []
      let git ← field o "git" (nullable GitConnection.decode) none
      let requirements ← field o "requirements" (nullable text) none
      return ⟨credentials, git, requirements⟩)
    (do
      let credentials ← item (list CredentialEntry.decode) []
      let git ← item (nullable GitConnection.decode) none
      let requirements ← item (nullable text) none
      return ⟨credentials, git, requirements⟩)

def encode (s : ProviderSettings) : Json :=
  Encode.object ((if s.credentials.isEmpty then []
      else [("credentials", .arr (s.credentials.map CredentialEntry.encode))]) ++
    Encode.optional "git" GitConnection.encode s.git ++ Encode.optional "requirements" .str s.requirements)

end ProviderSettings

structure ProviderConfig where
  metadata : Metadata
  settings : ProviderSettings
deriving DecidableEq

namespace ProviderConfig

def empty : ProviderConfig := ⟨.empty, .empty⟩

instance : Inhabited ProviderConfig := ⟨empty⟩

def name (c : ProviderConfig) : String := c.metadata.name

def decode : Decoder ProviderConfig :=
  record "ProviderConfig" .apart
    (fun o => do
      let metadata ← field o "metadata" Metadata.decode .empty
      let settings ← field o "spec" ProviderSettings.decode .empty
      return ⟨metadata, settings⟩)
    (do
      let metadata ← item Metadata.decode .empty
      let settings ← item ProviderSettings.decode .empty
      return ⟨metadata, settings⟩)

def encode (c : ProviderConfig) : Json :=
  Encode.object [("metadata", c.metadata.encode), ("spec", c.settings.encode)]

end ProviderConfig
end AnsibleStaging
