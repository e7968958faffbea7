import AnsibleStaging.FileSystem.Basic

/-! A file tree held in memory: its entries stand in the order of their components and keep the spelling under
    which they were first made. Two spellings of one place name the same entry. -/

namespace AnsibleStaging

inductive Node where
  | dir (mode : FileMode)
  | file (data : ByteArray) (mode : FileMode)
deriving DecidableEq

namespace Node

def mode : Node → FileMode
  | dir m => m
  | file _ m => m

def data? : Node → Option ByteArray
  | dir _ => none
  | file d _ => some d

def isDir : Node → Bool
  | dir _ => true
  | file _ _ => false

end Node

structure MemTree where
  entries : List (Path × Node)
deriving DecidableEq

namespace MemTree

def empty : MemTree := ⟨[]⟩

instance : Inhabited MemTree := ⟨empty⟩

/-- The entry at the place that `p` spells. --/
def get? (t : MemTree) (p : Path) : Option Node :=
  (t.entries.find? fun e => decide (e.1.Same p)).map (·.2)

/-- Puts a node among entries in order; an entry that is there keeps its spelling. --/
def put (p : Path) (n : Node) : List (Path × Node) → List (Path × Node)
  | [] => [(p, n)]
  | (q, m) :: rest =>
    if p.Same q then (q, n) :: rest
    else if p.components < q.components then (p, n) :: (q, m) :: rest
    else (q, m) :: put p n rest

def insert (t : MemTree) (p : Path) (n : Node) : MemTree := ⟨put p n t.entries⟩

/-- The bytes of the file at `p`, if there is one. --/
def contents (t : MemTree) (p : Path) : Option ByteArray := (t.get? p).bind Node.data?

def isDir (t : MemTree) (p : Path) : Bool := (t.get? p).elim false Node.isDir

def mode (t : MemTree) (p : Path) : Option FileMode := (t.get? p).map Node.mode

def files (t : MemTree) : List Path := (t.entries.filter fun e => !e.2.isDir).map (·.1)

/-- Makes the directories that are missing in a list, and stops at a file. --/
def makeMissing (mode : FileMode) : List Path → FileAction MemTree Unit
  | [], t => (.ok (), t)
  | d :: rest, t =>
    match t.get? d with
    | some (.dir _) => makeMissing mode rest t
    | some (.file _ _) => (.error (.reported .other (d.text ++ " exists and is not a directory")), t)
    | none => makeMissing mode rest (t.insert d (.dir mode))

/-- Makes `p` and its parents, the outermost first. --/
def makeDirs (p : Path) (mode : FileMode) : FileAction MemTree Unit :=
  makeMissing mode (p.ancestors.filter fun a => !a.isEmpty).reverse

def createParents (p : Path) : FileAction MemTree Unit := fun t =>
  match p.parent with
  | some q => makeDirs q .privateDirectory t
  | none => (.ok (), t)

/-- Replaces the file at `p`, unless a directory is there. --/
def write (p : Path) (data : ByteArray) (mode : FileMode) : FileAction MemTree Unit := fun t =>
  match t.get? p with
  | some (.dir _) => (.error (.reported .other (p.text ++ " is a directory")), t)
  | _ =>
    match createParents p t with
    | (.ok (), t) => (.ok (), t.insert p (.file data mode))
    | (.error e, t) => (.error e, t)

def read (p : Path) : FileAction MemTree ByteArray := fun t =>
  match t.get? p with
  | some (.file data _) => (.ok data, t)
  | some (.dir _) => (.error (.reported .other (p.text ++ " is a directory")), t)
  | none => (.error (.reported .notFound (p.text ++ " not found")), t)

def fileSystem : FileSystem MemTree where
  makeDirs := makeDirs
  write := write
  read := read

end MemTree
end AnsibleStaging
