import AnsibleStaging.Credentials.Extract

/-! How connecting fails. Every step has a failure of its own, which carries its cause. -/

namespace AnsibleStaging

inductive GitCredentialsError where
  | token (e : ExtractionError)
  | invalidToken
  | invalidUrl (url why : String)
  | io (e : IoError)
deriving DecidableEq

namespace GitCredentialsError

def message : GitCredentialsError → String
  | token e => "cannot resolve git token: " ++ e.message
  | invalidToken => "git token is not valid UTF-8"
  | invalidUrl url why => "invalid git url " ++ url ++ ": " ++ why
  | io e => e.message

/-- The texts along the causes, outermost first. A failure of storage speaks for itself. --/
def causes : GitCredentialsError → List String
  | token e => e.message :: e.causes
  | _ => []

end GitCredentialsError

/-- The step at which connecting failed, with its cause. --/
inductive ConnectError where
  | notSupported (kind : String)
  | makeDirectory (e : IoError)
  | trackUsage (e : ServiceError)
  | getConfig (e : ServiceError)
  | extract (e : ExtractionError)
  | writeCredentials (filename : String) (e : IoError)
  | gitCredentials (e : GitCredentialsError)
  | fetchPlaybook (e : FetchError)
  | writePlaybook (e : IoError)
  | writeRequirements (e : IoError)
  | initRunner (e : RunnerError)
  | installGalaxy (e : RunnerError)
  | cancelled
deriving DecidableEq

namespace ConnectError

def message : ConnectError → String
  | notSupported kind => "managed resource of kind " ++ kind ++ " is not an AnsibleRun custom resource"
  | makeDirectory e => "cannot make directory: " ++ e.message
  | trackUsage e => "cannot track ProviderConfig usage: " ++ e.message
  | getConfig e => "cannot get ProviderConfig: " ++ e.message
  | extract e => "cannot get credentials: " ++ e.message
  | writeCredentials filename e => "cannot write credentials to " ++ filename ++ ": " ++ e.message
  | gitCredentials e => "cannot write .git-credentials: " ++ e.message
  | fetchPlaybook e => "cannot fetch playbook: " ++ e.message
  | writePlaybook e => "cannot write playbook: " ++ e.message
  | writeRequirements e => "cannot write galaxy requirements: " ++ e.message
  | initRunner e => "cannot init ansible runner: " ++ e.message
  | installGalaxy e => "cannot install galaxy dependencies: " ++ e.message
  | cancelled => "connect cancelled"

def causes : ConnectError → List String
  | notSupported _ => []
  | makeDirectory e => [e.message]
  | trackUsage e => [e.message]
  | getConfig e => [e.message]
  | extract e => e.message :: e.causes
  | writeCredentials _ e => [e.message]
  | gitCredentials e => e.message :: e.causes
  | fetchPlaybook e => e.message :: e.causes
  | writePlaybook e => [e.message]
  | writeRequirements e => [e.message]
  | initRunner e => e.message :: e.causes
  | installGalaxy e => e.message :: e.causes
  | cancelled => []

def kindName : ConnectError → String
  | notSupported _ => "NotSupportedType"
  | makeDirectory _ => "MkdirFailed"
  | trackUsage _ => "TrackUsageFailed"
  | getConfig _ => "GetConfigFailed"
  | extract _ => "ExtractionFailed"
  | writeCredentials _ _ => "WriteCredentialsFailed"
  | gitCredentials _ => "WriteGitCredentialsFailed"
  | fetchPlaybook _ => "FetchPlaybookFailed"
  | writePlaybook _ => "WritePlaybookFailed"
  | writeRequirements _ => "WriteRequirementsFailed"
  | initRunner _ => "InitFailed"
  | installGalaxy _ => "GalaxyInstallFailed"
  | cancelled => "Cancelled"

end ConnectError
end AnsibleStaging
