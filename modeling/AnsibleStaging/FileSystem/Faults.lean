import AnsibleStaging.FileSystem.Basic

/-! Calls that are made to fail. Every call on a registered place fails with the kind and message registered
    last and does not reach the file system below; all others do. -/

namespace AnsibleStaging

structure Fault where
  path : Path
  kind : IoErrorKind
  message : String
deriving DecidableEq

/-- The registered faults, the latest first. --/
structure Faults where
  registered : List Fault

namespace Faults

def none : Faults := ⟨[]⟩

def register (f : Faults) (fault : Fault) : Faults := ⟨fault :: f.registered⟩

/-- The failure registered for the place that `p` spells. --/
def find? (f : Faults) (p : Path) : Option IoError :=
  (f.registered.find? fun r => decide (r.path.Same p)).map fun r => .reported r.kind r.message

def guard {σ α : Type} (f : Faults) (p : Path) (action : FileAction σ α) : FileAction σ α := fun s =>
  match f.find? p with
  | some e => (.error e, s)
  | Option.none => action s

def overlay {σ : Type} (f : Faults) (inner : FileSystem σ) : FileSystem σ where
  makeDirs p m := f.guard p (inner.makeDirs p m)
  write p d m := f.guard p (inner.write p d m)
  read p := f.guard p (inner.read p)

end Faults
end AnsibleStaging
