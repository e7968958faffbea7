import AnsibleStaging.Connect.Call
import AnsibleStaging.Url.FilePath

/-! Where the playbook of a run comes from: the run itself, or what a locator names, on the web or in a file. A
    locator is read as a URL first, so that nothing is asked for one that is not. -/

namespace AnsibleStaging

/-- What the web answers: the status at the end of all redirections, and the content. --/
structure WebAnswer where
  status : Nat
  content : ByteArray

/-- Asks the web for what a URL names. --/
abbrev Web (σ : Type) := Url → σ → Except String WebAnswer × σ

namespace Locator

def isSuccess (status : Nat) : Bool := 200 ≤ status && status < 300

/-- The content that the web has under `u`. --/
def ofWeb {σ : Type} (web : Web σ) (u : Url) (s : σ) : Except FetchError ByteArray × σ :=
  match web u s with
  | (.error why, s) => (.error (.request why), s)
  | (.ok a, s) => (if isSuccess a.status then .ok a.content else .error (.status u.text a.status), s)

/-- The content of the file that `u` names. --/
def ofFile {σ : Type} (files : FileSystem σ) (locator : String) (u : Url) (s : σ) : Except FetchError ByteArray × σ :=
  match u.filePath? with
  | none => (.error (.invalidLocator locator "not a local file path"), s)
  | some p =>
    let (r, s) := files.read p s
    (r.mapError (.read p.text), s)

def fetch {σ : Type} (web : Web σ) (files : FileSystem σ) (locator : String) (s : σ) :
    Except FetchError ByteArray × σ :=
  match Url.read locator with
  | .error e => (.error (.invalidLocator locator e.message), s)
  | .ok u =>
    if u.scheme = "http" ∨ u.scheme = "https" then ofWeb web u s
    else if u.scheme = "file" then ofFile files locator u s
    else (.error (.unsupportedScheme u.scheme), s)

end Locator

def playbookContent (run : AnsibleRun) : Task FetchError ByteArray :=
  match run.source with
  | .inline => .done run.parameters.playbook.toUTF8
  | .remote => Task.fetch run.parameters.playbook

end AnsibleStaging
