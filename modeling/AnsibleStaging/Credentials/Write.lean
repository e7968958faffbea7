import AnsibleStaging.Connect.Error
import AnsibleStaging.Staging

/-! The credential files of a run, in the order of the entries. An entry is resolved before its name is looked
    at, and the first failure ends the work with no call for a later entry. -/

namespace AnsibleStaging

/-- The file from which git's credential store reads. --/
def gitCredentialsName : String := ".git-credentials"

/-- The name under which an entry is written. --/
def entryName (e : CredentialEntry) : Except ConnectError String :=
  match Staging.safeFileName e.filename with
  | some name => .ok name
  | none =>
    .error (.writeCredentials e.filename (.reported .invalidInput "credential filename has no final component"))

/-- Resolves one entry and writes it into `dir`; answers its name and its bytes. --/
def writeEntry (env : Environment) (dir : Path) (e : CredentialEntry) : Task ConnectError (String × ByteArray) := do
  let data ← (extractCredentials env e.source e.selectors).mapError .extract
  let name ← .ofExcept (entryName e)
  (Staging.write (dir.join name) data).mapError (.writeCredentials e.filename)
  return (name, data)

/-- Writes the entries into `dir`. The answer is the bytes of the last one that git's credential store reads,
    or `latest` if there is none. --/
def writeEntries (env : Environment) (dir : Path) (latest : Option ByteArray) :
    List CredentialEntry → Task ConnectError (Option ByteArray)
  | [] => .done latest
  | e :: rest => do
    let (name, data) ← writeEntry env dir e
    writeEntries env dir (if name = gitCredentialsName then some data else latest) rest

def writeCredentials (env : Environment) (dir : Path) (entries : List CredentialEntry) :
    Task ConnectError (Option ByteArray) :=
  writeEntries env dir none entries

end AnsibleStaging
