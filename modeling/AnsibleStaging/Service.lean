/-! How a collaborator of the controller fails: the control plane, the tracker of usage and the store of
    secrets all fail with one of these. -/

namespace AnsibleStaging

inductive ServiceError where
  | notFound (what : String)
  | invalidInput (what : String)
  | forbidden (what : String)
  | conflict (what : String)
  | controlPlane (what : String)
  | internal (what : String)
deriving DecidableEq

namespace ServiceError

def message : ServiceError → String
  | notFound w => "not found: " ++ w
  | invalidInput w => "invalid input: " ++ w
  | forbidden w => "forbidden: " ++ w
  | conflict w => "conflict: " ++ w
  | controlPlane w => "control plane error: " ++ w
  | internal w => "internal error: " ++ w

end ServiceError
end AnsibleStaging
