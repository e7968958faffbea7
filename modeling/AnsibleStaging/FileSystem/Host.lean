import AnsibleStaging.FileSystem.Basic

/-! Storage on a host. A file is replaced by a rename: the new contents go to a file of their own beside the
    target, get their mode and reach the disk before they take the target's name. So a reader sees the old
    file or the new one, and a failure leaves the target alone; the file beside it is removed. -/

namespace AnsibleStaging

/-- The calls of the host that storage is built from. --/
structure HostCalls (σ : Type) where
  /-- A name that no other file has. --/
  freshName : σ → String × σ
  /-- Makes a directory and its missing parents. --/
  makeDirs : Path → FileMode → FileAction σ Unit
  /-- Makes an empty file where nothing is. --/
  createNew : Path → FileMode → FileAction σ Unit
  append : Path → ByteArray → FileAction σ Unit
  /-- Makes sure that the contents have reached the disk. --/
  flush : Path → FileAction σ Unit
  setMode : Path → FileMode → FileAction σ Unit
  rename : Path → Path → FileAction σ Unit
  /-- Takes a file away; that it may fail is of no interest. --/
  remove : Path → σ → σ
  read : Path → FileAction σ ByteArray

namespace HostCalls
variable {σ : Type}

/-- Makes the parents of a file, if it names any. --/
def makeParents (h : HostCalls σ) (p : Path) : FileAction σ Unit := fun s =>
  match p.parent with
  | some q => if q.isEmpty then (.ok (), s) else h.makeDirs q .privateDirectory s
  | none => (.ok (), s)

/-- The name of the hidden file that takes the new contents of `name` first. --/
def temporaryName (name token : String) : String := "." ++ name ++ "." ++ token ++ ".tmp"

/-- The hidden file beside `p`. --/
def beside (p : Path) (name token : String) : Path := p.withFileName (temporaryName name token)

/-- Writes all of `data` to the new file `fresh` and gives it the name `p`. The mode is set again because a
    new file gets only part of it. --/
def fillAndRename (h : HostCalls σ) (fresh p : Path) (data : ByteArray) (mode : FileMode) : FileAction σ Unit :=
  (h.createNew fresh mode).andThen <| (h.append fresh data).andThen <| (h.flush fresh).andThen <|
    (h.setMode fresh mode).andThen <| h.rename fresh p

def replaceFile (h : HostCalls σ) (p : Path) (data : ByteArray) (mode : FileMode) : FileAction σ Unit :=
  (h.makeParents p).andThen fun s =>
    match p.fileName with
    | none => (.error (.reported .invalidInput (p.text ++ " has no file name")), s)
    | some name =>
      let (token, s) := h.freshName s
      let fresh := beside p name token
      match h.fillAndRename fresh p data mode s with
      | (.ok (), s) => (.ok (), s)
      | (.error e, s) => (.error e, h.remove fresh s)

/-- Storage built from the calls of a host. --/
def fileSystem (h : HostCalls σ) : FileSystem σ where
  makeDirs := h.makeDirs
  write := h.replaceFile
  read := h.read

end HostCalls
end AnsibleStaging
