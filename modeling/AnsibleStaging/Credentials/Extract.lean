import AnsibleStaging.Connect.Call

/-! The bytes of a credential. The source alone decides which selector is looked at, and each source makes at
    most one call. -/

namespace AnsibleStaging

abbrev Environment := String → Option ByteArray

/-- Why the bytes of a credential cannot be had. --/
inductive ExtractionError where
  | noVariable
  | variableUnset (name : String)
  | noPath
  | read (path : String) (e : IoError)
  | noSecretKey
  | secret (e : ServiceError)
  | noData
deriving DecidableEq

namespace ExtractionError

def message : ExtractionError → String
  | noVariable => "cannot extract from environment variable when none specified"
  | variableUnset name => "environment variable " ++ name ++ " is not set"
  | noPath => "cannot extract from filesystem when no path specified"
  | read path e => "cannot read credentials from " ++ path ++ ": " ++ e.message
  | noSecretKey => "cannot extract from secret key when none specified"
  | secret e => "cannot get credentials secret: " ++ e.message
  | noData => "no inline credentials specified"

def causes : ExtractionError → List String
  | read _ e => [e.message]
  | secret e => [e.message]
  | _ => []

end ExtractionError

def nonEmpty? (s : Option String) : Option String := s.filter fun t => !t.isEmpty

/-- The bytes that `source` finds through its selector. --/
def extractCredentials (env : Environment) (source : CredentialsSource) (selectors : Selectors) :
    Task ExtractionError ByteArray :=
  match source with
  | .none => .done (selectors.data.elim .empty String.toUTF8)
  | .inline =>
    match selectors.data with
    | some data => .done data.toUTF8
    | none => .fail .noData
  | .environment =>
    match nonEmpty? selectors.environment with
    | none => .fail .noVariable
    | some name =>
      match env name with
      | some value => .done value
      | none => .fail (.variableUnset name)
  | .filesystem =>
    match nonEmpty? selectors.path with
    | none => .fail .noPath
    | some path => (Task.read ⟨path⟩).mapError (.read path)
  | .secret =>
    match selectors.secret with
    | none => .fail .noSecretKey
    | some key => (Task.secret key).mapError .secret

end AnsibleStaging
