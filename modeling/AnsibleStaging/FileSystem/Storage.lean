import AnsibleStaging.FileSystem.HostTree
import AnsibleStaging.FileSystem.MemTree

/-! Files held in memory or on a host, as one file system. -/

namespace AnsibleStaging

inductive Storage where
  | memory (t : MemTree)
  | host (t : HostTree)

namespace Storage

/-- Does an action on whichever tree is there. --/
def onTree {α : Type} (inMemory : FileAction MemTree α) (onHost : FileAction HostTree α) : FileAction Storage α
  | .memory t =>
    let (r, t) := inMemory t
    (r, .memory t)
  | .host t =>
    let (r, t) := onHost t
    (r, .host t)

def fileSystem : FileSystem Storage where
  makeDirs p m := onTree (MemTree.fileSystem.makeDirs p m) (HostTree.fileSystem.makeDirs p m)
  write p d m := onTree (MemTree.fileSystem.write p d m) (HostTree.fileSystem.write p d m)
  read p := onTree (MemTree.fileSystem.read p) (HostTree.fileSystem.read p)

/-- What is said of the entry at a path: whether it is a directory, its mode, and its bytes if it is a file. --/
def stat (s : Storage) (p : Path) : Bool × Option FileMode × Option ByteArray :=
  match s with
  | .memory t => (t.isDir p, t.mode p, t.contents p)
  | .host t =>
    match t.lookUp p with
    | .ok (.dir m) => (true, some m, none)
    | .ok (.file d m) => (false, some m, some d)
    | .error _ => (false, none, none)

end Storage
end AnsibleStaging
