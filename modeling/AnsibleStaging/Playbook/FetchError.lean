import AnsibleStaging.FileSystem.Error

/-! How fetching a playbook fails. -/

namespace AnsibleStaging

inductive FetchError where
  | invalidLocator (locator why : String)
  | unsupportedScheme (scheme : String)
  | request (why : String)
  | status (url : String) (code : Nat)
  | read (path : String) (e : IoError)
deriving DecidableEq

namespace FetchError

def message : FetchError → String
  | invalidLocator locator why => "invalid playbook locator " ++ locator ++ ": " ++ why
  | unsupportedScheme scheme => "unsupported playbook locator scheme: " ++ scheme
  | request why => "request failed: " ++ why
  | status url code => url ++ " returned " ++ toString code
  | read path e => "cannot read " ++ path ++ ": " ++ e.message

def causes : FetchError → List String
  | read _ e => [e.message]
  | _ => []

end FetchError
end AnsibleStaging
