import AnsibleStaging.Json.Decode

/-! Identity of resources. Staging directories are keyed by the uid, so a uid is used only if it is one name of
    a directory: not empty, not a dot or two, and without slashes, backslashes and NUL. -/

namespace AnsibleStaging

/-- The identity that the control plane gives a resource. --/
structure Uid where
  text : String
deriving DecidableEq, Inhabited

namespace Uid

def isEmpty (u : Uid) : Bool := u.text.isEmpty

/-- The characters that no directory name holds. --/
def isForbidden (c : Char) : Bool := c == '/' || c == '\\' || c == '\x00'

/-- Whether the uid is the name of one directory. --/
def isPathSafe (u : Uid) : Bool :=
  !u.isEmpty && u.text != "." && u.text != ".." && !u.text.toList.any isForbidden

/-- The order of uids as texts. --/
def order (a b : Uid) : Ordering := if a.text < b.text then .lt else if a = b then .eq else .gt

def decode : Decoder Uid := fun v => (Decode.text v).map .mk

def encode (u : Uid) : Json := .str u.text

end Uid

structure Metadata where
  name : String
  space : Option String
  uid : Uid
deriving DecidableEq

namespace Metadata
open Decode

def empty : Metadata := ⟨"", none, ⟨""⟩⟩

instance : Inhabited Metadata := ⟨empty⟩

def decode : Decoder Metadata :=
  record "ObjectMeta" .apart
    (fun o => do
      let name ← field o "name" text ""
      let space ← field o "namespace" (nullable text) none
      let uid ← field o "uid" Uid.decode ⟨""⟩
      return ⟨name, space, uid⟩)
    (do
      let name ← item text ""
      let space ← item (nullable text) none
      let uid ← item Uid.decode ⟨""⟩
      return ⟨name, space, uid⟩)

def encode (m : Metadata) : Json :=
  Encode.object (("name", .str m.name) :: ("uid", m.uid.encode) :: Encode.optional "namespace" .str m.space)

end Metadata
end AnsibleStaging
