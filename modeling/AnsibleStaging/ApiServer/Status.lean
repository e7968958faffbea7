import AnsibleStaging.ApiServer.Request
import AnsibleStaging.Json.Decode
import AnsibleStaging.Json.Reader
import AnsibleStaging.Service
import AnsibleStaging.Text.Quoted
import AnsibleStaging.Text.Utf8

/-! What the API server says of a request that fails. Its own code decides what kind of failure it is, whatever the
    status of the response; a body that does not say all that it should is shown as it is. -/

namespace AnsibleStaging
namespace ApiServer

structure Status where
  status : String
  message : String
  reason : String
  code : Nat
deriving DecidableEq

/-- The phrase that belongs to the status of a response. --/
def phrase (status : Nat) : String :=
  match status with
  | 400 => "Bad Request"
  | 401 => "Unauthorized"
  | 402 => "Payment Required"
  | 403 => "Forbidden"
  | 404 => "Not Found"
  | 405 => "Method Not Allowed"
  | 406 => "Not Acceptable"
  | 407 => "Proxy Authentication Required"
  | 408 => "Request Timeout"
  | 409 => "Conflict"
  | 410 => "Gone"
  | 411 => "Length Required"
  | 412 => "Precondition Failed"
  | 413 => "Payload Too Large"
  | 414 => "URI Too Long"
  | 415 => "Unsupported Media Type"
  | 416 => "Range Not Satisfiable"
  | 417 => "Expectation Failed"
  | 418 => "I'm a teapot"
  | 421 => "Misdirected Request"
  | 422 => "Unprocessable Entity"
  | 423 => "Locked"
  | 424 => "Failed Dependency"
  | 425 => "Too Early"
  | 426 => "Upgrade Required"
  | 428 => "Precondition Required"
  | 429 => "Too Many Requests"
  | 431 => "Request Header Fields Too Large"
  | 451 => "Unavailable For Legal Reasons"
  | 500 => "Internal Server Error"
  | 501 => "Not Implemented"
  | 502 => "Bad Gateway"
  | 503 => "Service Unavailable"
  | 504 => "Gateway Timeout"
  | 505 => "HTTP Version Not Supported"
  | 506 => "Variant Also Negotiates"
  | 507 => "Insufficient Storage"
  | 508 => "Loop Detected"
  | 510 => "Not Extended"
  | 511 => "Network Authentication Required"
  | _ => "<unknown status code>"

namespace Status

def text? : Option Json → Option String
  | some (.str s) => some s
  | _ => none

/-- A code of 16 bits. --/
def code? : Option Json → Option Nat
  | some (.num (.int n _)) => if 0 ≤ n ∧ n < 65536 then some n.toNat else none
  | _ => none

/-- The parts of a status, in their order. --/
def ofParts? (status message reason code : Option Json) : Option Status := do
  return ⟨← text? status, ← text? message, ← text? reason, ← code? code⟩

def ofJson? : Json → Option Status
  | .obj o =>
    let part := Fields.get? o
    ofParts? (part "status") (part "message") (part "reason") (part "code")
  | .arr [status, message, reason, code] => ofParts? (some status) (some message) (some reason) (some code)
  | _ => none

/-- The status that stands for a body that says none. --/
def unread (httpStatus : Nat) (body : String) : Status where
  status := toString httpStatus ++ " " ++ phrase httpStatus
  message := quoted body
  reason := "Failed to parse error data"
  code := httpStatus

/-- All parts of a status, as they are shown in a diagnosis. --/
def shown (s : Status) : String :=
  "ErrorResponse \x7b status: " ++ quoted s.status ++ ", message: " ++ quoted s.message ++ ", reason: " ++
    quoted s.reason ++ ", code: " ++ toString s.code ++ " \x7d"

def toServiceError (s : Status) : ServiceError :=
  if s.code = 404 then .notFound s.message
  else if s.code = 403 then .forbidden s.message
  else if s.code = 409 then .conflict s.message
  else .controlPlane ("ApiError: " ++ s.message ++ ": " ++ s.reason ++ " (" ++ s.shown ++ ")")

end Status

def isFailure (httpStatus : Nat) : Bool := 400 ≤ httpStatus && httpStatus < 600

/-- The text of a response that is no failure. --/
def Response.text (r : Response) : Except ServiceError String :=
  match Utf8.decode? r.body with
  | none => .error (.controlPlane ("UTF-8 Error: " ++ ((Utf8.fault? r.body).elim "" Utf8.Fault.message)))
  | some text =>
    if isFailure r.status then
      .error (((Json.parse? text).bind Status.ofJson?).getD (.unread r.status text)).toServiceError
    else .ok text

def received : Except String Response → Except ServiceError String
  | .ok r => r.text
  | .error why => .error (.controlPlane ("ServiceError: " ++ why))

/-! ### What the server says -/

/-- A response whose body is a record. --/
def answer (status : Nat) (v : Json) : Response := ⟨status, v.render.toUTF8⟩

theorem notFound_inRange : (-9223372036854775808 : Int) ≤ 404 ∧ (404 : Int) < 18446744073709551616 := by decide

/-- What the server says of an object that is not there. --/
def notFoundStatus (message : String) : Json :=
  Encode.object
    [("kind", .str "Status"), ("apiVersion", .str "v1"), ("metadata", Encode.object []), ("status", .str "Failure"),
      ("message", .str message), ("reason", .str "NotFound"), ("code", .num (.int 404 notFound_inRange))]

/-! ### Sending -/

/-- A response that does not hold what was asked for. --/
def undecodable : ServiceError := .controlPlane "Error deserializing response"

def RequestError.toServiceError (e : RequestError) : ServiceError :=
  .controlPlane ("Failed to build request: " ++ e.message)

/-- Makes a request and takes the JSON of its response. --/
def send (r : Except RequestError Request) : Exchange ServiceError Json := do
  let request ← .ofExcept (r.mapError RequestError.toServiceError)
  let text ← .ask request fun (answer : Except String Response) => .ofExcept (received answer)
  match Json.parse? text with
  | some v => return v
  | none => .fail undecodable

end ApiServer
end AnsibleStaging
