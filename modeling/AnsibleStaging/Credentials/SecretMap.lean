import AnsibleStaging.Resource.Credentials
import AnsibleStaging.Service

/-! Secrets held in memory, by namespace, name and key. The value stored last under a key is the one found. -/

namespace AnsibleStaging

structure SecretMap where
  entries : List (SecretKey × ByteArray)

namespace SecretMap

def empty : SecretMap := ⟨[]⟩

def insert (m : SecretMap) (key : SecretKey) (value : ByteArray) : SecretMap := ⟨(key, value) :: m.entries⟩

def find? (m : SecretMap) (key : SecretKey) : Option ByteArray :=
  (m.entries.find? fun e => e.1 == key).map (·.2)

def get (m : SecretMap) (key : SecretKey) : Except ServiceError ByteArray :=
  match m.find? key with
  | some value => .ok value
  | none => .error (.notFound ("secret " ++ key.text))

end SecretMap
end AnsibleStaging
