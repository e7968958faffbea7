import AnsibleStaging.Credentials.Write
import AnsibleStaging.Text.Blank
import AnsibleStaging.Text.Utf8
import AnsibleStaging.Url.Reader

/-! What git's credential store reads. An entry that is meant for it wins; otherwise the git connection gives one line
    for its host, in which user and token are encoded, so that neither can name another host or add a line. -/

namespace AnsibleStaging

/-- The user of a git connection that names none. --/
def defaultGitUsername : String := "x-access-token"

/-- The line that logs a user in at the host of a URL. Of the URL only the scheme, the host and the port stay. --/
def credentialLine (url username token : String) : Except GitCredentialsError String :=
  match Url.read url with
  | .error e => .error (.invalidUrl url e.message)
  | .ok u =>
    if u.scheme ≠ "http" ∧ u.scheme ≠ "https" then .error (.invalidUrl url "scheme must be http or https")
    else if u.host.isNone then .error (.invalidUrl url "no host")
    else
      match u.site.setUsername? username with
      | none => .error (.invalidUrl url "cannot set username")
      | some named =>
        match named.setPassword? token with
        | none => .error (.invalidUrl url "cannot set token")
        | some login => .ok (String.ofList (trimEndChars (· == '/') login.text.toList) ++ "\n")

/-- The line of a git connection with a token; none without a token. --/
def connectionLine (git : GitConnection) (token : String) : Except GitCredentialsError ByteArray :=
  if (trimBlank token).isEmpty then .ok .empty
  else
    (credentialLine git.url ((nonEmpty? git.username).getD defaultGitUsername) (trimBlank token)).map String.toUTF8

/-- The content for git's credential store: the entry that is meant for it, or what the connection gives. --/
def gitCredentials (env : Environment) (entry : Option ByteArray) (git : Option GitConnection) :
    Task GitCredentialsError ByteArray :=
  match entry, git with
  | some data, _ => .done data
  | none, none => .done .empty
  | none, some git => do
    let data ← (extractCredentials env git.tokenSource git.token).mapError .token
    match Utf8.decode? data with
    | none => .fail .invalidToken
    | some token => .ofExcept (connectionLine git token)

/-- Replaces what git's credential store reads in `dir`. --/
def writeGitCredentials (dir : Path) (content : ByteArray) : Task GitCredentialsError Unit :=
  (Staging.write (dir.join gitCredentialsName) content).mapError .io

end AnsibleStaging
