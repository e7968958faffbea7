import AnsibleStaging.Connect.Call

/-! Staging directories. Each run owns the directory named by its uid under a base, and only names that are one
    component are joined to it, so nothing is ever written outside. -/

namespace AnsibleStaging

structure Staging where
  base : Path
deriving DecidableEq

namespace Staging

/-- The directory that belongs to `uid`; none for a uid that does not name one. --/
def dir (s : Staging) (uid : Uid) : Except IoError Path :=
  if uid.isPathSafe then .ok (s.base.join uid.text)
  else .error (.reported .invalidInput ("uid " ++ quoted uid.text ++ " is not a valid directory name"))

def ensureDirectory (s : Staging) (uid : Uid) : Task IoError Path := do
  let dir ← .ofExcept (s.dir uid)
  Task.makeDirs dir .privateDirectory
  return dir

def write (p : Path) (data : ByteArray) : Task IoError Unit := Task.write p data .privateFile

/-- The last component of a file name, unless it leads elsewhere. --/
def safeFileName (filename : String) : Option String := (Path.mk filename).fileName

end Staging
end AnsibleStaging
