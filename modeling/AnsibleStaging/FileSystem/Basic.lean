import AnsibleStaging.FileSystem.Error
import AnsibleStaging.Path

/-! What staging needs of storage: directories are made with all their parents, a file is replaced as a whole,
    and a file is read as a whole. A file system over states `σ` answers each call and moves to a new state,
    also when the call fails. -/

namespace AnsibleStaging

/-- Bytes are equal if they are the same in the same order. --/
instance bytesDecidableEq : DecidableEq ByteArray := fun a b =>
  decidable_of_iff (a.data = b.data) ⟨ByteArray.ext, congrArg ByteArray.data⟩

structure FileMode where
  bits : Nat
deriving DecidableEq

namespace FileMode

/-- Read and write for the owner alone: the mode of every staged file. --/
def privateFile : FileMode := ⟨0o600⟩

/-- All for the owner alone: the mode of every directory that staging makes. --/
def privateDirectory : FileMode := ⟨0o700⟩

def octal (m : FileMode) : String := String.ofList (Nat.toDigits 8 m.bits)

end FileMode

/-- An operation on a state that may fail. --/
abbrev FileAction (σ α : Type) := σ → Except IoError α × σ

/-- One action and then another; the first failure ends both. --/
def FileAction.andThen {σ α : Type} (first : FileAction σ Unit) (second : FileAction σ α) : FileAction σ α :=
  fun s =>
    match first s with
    | (.ok (), s) => second s
    | (.error e, s) => (.error e, s)

structure FileSystem (σ : Type) where
  makeDirs : Path → FileMode → FileAction σ Unit
  write : Path → ByteArray → FileMode → FileAction σ Unit
  read : Path → FileAction σ ByteArray

end AnsibleStaging
