import AnsibleStaging.Resource.Metadata

/-! Where credentials come from: the sources, the selectors that each source reads, the entries of files to
    write and the connection to a source-control host. -/

namespace AnsibleStaging
open Decode

/-- The source of the bytes of a credential. --/
inductive CredentialsSource where
  | none
  | secret
  | filesystem
  | environment
  | inline
deriving DecidableEq, Inhabited

namespace CredentialsSource

def name : CredentialsSource → String
  | none => "None"
  | secret => "Secret"
  | filesystem => "Filesystem"
  | environment => "Environment"
  | inline => "Inline"

def all : List CredentialsSource := [none, secret, filesystem, environment, inline]

def decode : Decoder CredentialsSource := variant (all.map fun s => (s.name, s))

def encode (s : CredentialsSource) : Json := .str s.name

end CredentialsSource

structure SecretKey where
  name : String
  space : String
  key : String
deriving DecidableEq

namespace SecretKey

def text (s : SecretKey) : String := s.space ++ "/" ++ s.name ++ "[" ++ s.key ++ "]"

def decodeIn (surplus : Surplus) : Decoder SecretKey :=
  record "SecretKeySelector" surplus
    (fun o => do
      let key ← field? o "key" Decode.text
      let name ← field? o "name" Decode.text
      let space ← field o "namespace" Decode.text ""
      let name ← require "name" name
      let key ← require "key" key
      return ⟨name, space, key⟩)
    (do
      let whole := sizedName "SecretKeySelector" 3
      let name ← requiredItem whole Decode.text
      let space ← item Decode.text ""
      let key ← requiredItem whole Decode.text
      return ⟨name, space, key⟩)

def decode : Decoder SecretKey := decodeIn .apart

def encode (s : SecretKey) : Json :=
  Encode.object [("name", .str s.name), ("namespace", .str s.space), ("key", .str s.key)]

end SecretKey

/-- A selector that is one text: the name of an environment variable, or a path. --/
def decodeSingle (recordName fieldName : String) (surplus : Surplus) : Decoder String :=
  record recordName surplus (fun o => field o fieldName Decode.text "") (item Decode.text "")

/-- What each source reads. Only the selector of the chosen source is looked at. --/
structure Selectors where
  secret : Option SecretKey
  environment : Option String
  path : Option String
  data : Option String
deriving DecidableEq

namespace Selectors

def empty : Selectors := ⟨none, none, none, none⟩

instance : Inhabited Selectors := ⟨empty⟩

/-- The selectors among the members of an object. --/
def ofFields (surplus : Surplus) (o : Fields) : Except DecodeError Selectors := do
  let data ← field o "data" (nullable Decode.text) none
  let environment ← field o "env" (nullable (decodeSingle "EnvSelector" "name" surplus)) none
  let path ← field o "fs" (nullable (decodeSingle "FsSelector" "path" surplus)) none
  let secret ← field o "secretRef" (nullable (SecretKey.decodeIn surplus)) none
  return ⟨secret, environment, path, data⟩

def decode : Decoder Selectors :=
  record "CredentialSelectors" .apart (ofFields .apart)
    (do
      let secret ← item (nullable SecretKey.decode) none
      let environment ← item (nullable (decodeSingle "EnvSelector" "name" .apart)) none
      let path ← item (nullable (decodeSingle "FsSelector" "path" .apart)) none
      let data ← item (nullable Decode.text) none
      return ⟨secret, environment, path, data⟩)

def toFields (s : Selectors) : Fields :=
  Encode.optional "secretRef" SecretKey.encode s.secret ++
    Encode.optional "env" (fun n => Encode.object [("name", .str n)]) s.environment ++
    Encode.optional "fs" (fun p => Encode.object [("path", .str p)]) s.path ++
    Encode.optional "data" .str s.data

def encode (s : Selectors) : Json := Encode.object s.toFields

end Selectors

/-- A credential file to be written into the working directory. --/
structure CredentialEntry where
  filename : String
  source : CredentialsSource
  selectors : Selectors
deriving DecidableEq

namespace CredentialEntry

def decode : Decoder CredentialEntry :=
  openRecord "ProviderCredentials" fun o => do
    let filename ← field o "filename" Decode.text ""
    let source ← field o "source" CredentialsSource.decode .none
    let selectors ← Selectors.ofFields .within o
    return ⟨filename, source, selectors⟩

def encode (e : CredentialEntry) : Json :=
  Encode.object (("filename", .str e.filename) :: ("source", e.source.encode) :: e.selectors.toFields)

end CredentialEntry

/-- The connection to a source-control host, with the source of its access token. --/
structure GitConnection where
  url : String
  username : Option String
  tokenSource : CredentialsSource
  token : Selectors
deriving DecidableEq

namespace GitConnection

def decode : Decoder GitConnection :=
  openRecord "GitConnection" fun o => do
    let tokenSource ← field o "tokenSource" CredentialsSource.decode .none
    let url ← field? o "url" Decode.text
    let username ← field o "username" (nullable Decode.text) none
    let url ← require "url" url
    let token ← Selectors.ofFields .within o
    return ⟨url, username, tokenSource, token⟩

def encode (g : GitConnection) : Json :=
  Encode.object (("url", .str g.url) :: ("tokenSource", g.tokenSource.encode) ::
    (Encode.optional "username" .str g.username ++ g.token.toFields))

end GitConnection
end AnsibleStaging
