import AnsibleStaging.Json.Printer
import AnsibleStaging.Script

/-! Requests to the API server of the control plane, and its responses. A name is put into the path as it is, so a
    name that cannot stand in a path makes no request. -/

namespace AnsibleStaging
namespace ApiServer

inductive Method where
  | get
  | patch
deriving DecidableEq

def Method.text : Method → String
  | get => "GET"
  | patch => "PATCH"

structure Request where
  method : Method
  uri : String
  contentType : Option String
  body : Option Json

structure Response where
  status : Nat
  body : ByteArray

/-- The interface of the API server. A request that gets no response comes back with the reason. --/
def api : Interface := ⟨Request, fun _ => Except String Response⟩

/-- The reason when nobody is there to take a request. --/
def noConnection : String := "client error (Connect)"

abbrev Exchange (ε α : Type) := Script api ε α

inductive RequestError where
  | noName
  | uriCharacter
  | uriLength
deriving DecidableEq

def RequestError.message : RequestError → String
  | noName => "failed to validate request: A non-empty name is required"
  | uriCharacter => "failed to build request: invalid uri character"
  | uriLength => "failed to build request: uri too long"

/-! ### Paths -/

/-- A character that stands in a path without an escape. --/
def isPathChar (c : Char) : Bool :=
  0x7E ≤ c.toNat || (0x21 ≤ c.toNat && !(['#', '<', '>', '?', '`'].contains c))

/-- A character that stands in a query without an escape. --/
def isQueryChar (c : Char) : Bool := 0x21 ≤ c.toNat && !(['"', '#', '<', '>'].contains c)

def maxUri : Nat := 65534

/-- Whether a path goes on. A query begins with `?`, and a fragment with `#`. --/
def inPath (c : Char) : Bool := c != '?' && c != '#'

/-- The path with its query, as it is asked for. What follows `#` is not sent. --/
def target (text : String) : Except RequestError String :=
  let cs := text.toList
  let path := cs.takeWhile inPath
  let query := (cs.dropWhile inPath).takeWhile (· != '#')
  if maxUri < text.utf8ByteSize then .error .uriLength
  else if path.all isPathChar && query.all isQueryChar then .ok (String.ofList (path ++ query))
  else .error .uriCharacter

/-- The path of an object in a collection. --/
def objectPath (collection name : String) : Except RequestError String :=
  if name.isEmpty then .error .noName else .ok (collection ++ "/" ++ name)

def getRequest (collection name : String) : Except RequestError Request := do
  return ⟨.get, ← target (← objectPath collection name), none, none⟩

/-- Who is named as the one that applies a change. --/
def fieldManager : String := "ansiblerun"

/-- Applies an object, also against other owners of its fields. --/
def applyRequest (collection name : String) (body : Json) : Except RequestError Request := do
  let path ← objectPath collection name
  let uri ← target (path ++ "?&force=true&fieldManager=" ++ fieldManager)
  return ⟨.patch, uri, some "application/apply-patch+yaml", some body⟩

/-- The path of a request without its query. --/
def Request.path (r : Request) : String := String.ofList (r.uri.toList.takeWhile (· != '?'))

end ApiServer
end AnsibleStaging
