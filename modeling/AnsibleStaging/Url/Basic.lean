import AnsibleStaging.Url.Host

/-! URLs. All parts are held as they are written, with their percent encoding, so that the text of a URL is put
    together without looking into them. -/

namespace AnsibleStaging

namespace Url

/-- What a URL names beneath its host: segments from the root, or a text without structure. --/
inductive UrlPath where
  | rooted (segments : List String)
  | plain (text : String)
deriving DecidableEq

end Url

structure Url where
  scheme : String
  username : String
  password : Option String
  host : Option Url.Host
  port : Option Nat
  path : Url.UrlPath
  query : Option String
  fragment : Option String
deriving DecidableEq

namespace Url

/-- The port that a scheme uses where none is written; the schemes that have one always have a host. --/
def defaultPort? (scheme : String) : Option Nat :=
  match scheme with
  | "http" => some 80
  | "ws" => some 80
  | "https" => some 443
  | "wss" => some 443
  | "ftp" => some 21
  | _ => none

def UrlPath.text : UrlPath → String
  | rooted segments => String.join (segments.map ("/" ++ ·))
  | plain text => text

/-- The user and the password with the sign after them, if one is given. --/
def userinfoText (u : Url) : String :=
  if u.username.isEmpty && u.password.isNone then ""
  else u.username ++ (u.password.elim "" (":" ++ ·)) ++ "@"

def hostText (u : Url) : String := u.host.elim "" Host.text

def portText (u : Url) : String := u.port.elim "" fun n => ":" ++ toString n

/-- The host with all that stands beside it, behind two slashes. A file has it even without a host. --/
def authorityText (u : Url) : String :=
  if u.host.isNone && u.scheme != "file" then "" else "//" ++ u.userinfoText ++ u.hostText ++ u.portText

def text (u : Url) : String :=
  u.scheme ++ ":" ++ u.authorityText ++ u.path.text ++ u.query.elim "" ("?" ++ ·) ++ u.fragment.elim "" ("#" ++ ·)

/-! ### Changing parts -/

/-- The path that is left when all of it is taken away. A scheme whose hosts always have a path keeps the root. --/
def UrlPath.cleared (scheme : String) : UrlPath → UrlPath
  | rooted _ => if (defaultPort? scheme).isSome ∨ scheme = "file" then rooted [""] else rooted []
  | plain _ => plain ""

/-- The URL without its path, its query and its fragment. --/
def site (u : Url) : Url := { u with path := u.path.cleared u.scheme, query := none, fragment := none }

/-- Whether the host can be given a user: it has a name, and it is not the host of a file. --/
def takesLogin (u : Url) : Bool := u.host.any (fun h => !h.text.isEmpty) && u.scheme != "file"

/-- The URL with another user, which is given in plain text. --/
def setUsername? (u : Url) (username : String) : Option Url :=
  if u.takesLogin then some { u with username := Percent.encode Percent.userinfoSet username } else none

/-- The URL with another password, which is given in plain text; an empty one is none. --/
def setPassword? (u : Url) (password : String) : Option Url :=
  if u.takesLogin then
    some { u with password := if password.isEmpty then none else some (Percent.encode Percent.userinfoSet password) }
  else none

def withoutLogin (u : Url) : Url := { u with username := "", password := none }

end Url
end AnsibleStaging
