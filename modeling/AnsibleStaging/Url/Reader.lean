import AnsibleStaging.Text.Blank
import AnsibleStaging.Url.Basic

/-! Reading URLs that stand for themselves. The scheme decides how the rest is read: one with a default port needs a
    host and takes backslashes for slashes, a file may have a host, and any other scheme has a host only behind
    two slashes. -/

namespace AnsibleStaging
namespace Url

/-! ### The scheme -/

/-- The characters that count: none that cannot be seen at the ends, and no tabs and line ends at all. --/
def cleaned (text : String) : List Char :=
  (trimChars (·.toNat ≤ 0x20) text.toList).filter fun c => c ≠ '\t' ∧ c ≠ '\n' ∧ c ≠ '\r'

def isSchemeChar (c : Char) : Bool := c.isAlphanum || c == '+' || c == '-' || c == '.'

/-- The scheme in small letters, and what follows its colon. --/
def scheme? (cs : List Char) : Option (String × List Char) :=
  match cs.dropWhile isSchemeChar with
  | ':' :: rest =>
    let name := cs.takeWhile isSchemeChar
    if name.head?.any Char.isAlpha then some (String.ofList (name.map Char.toLower), rest) else none
  | _ => none

inductive Kind where
  | network
  | file
  | other
deriving DecidableEq

def Kind.ofScheme (scheme : String) : Kind :=
  if scheme = "file" then .file else if (defaultPort? scheme).isSome then .network else .other

def Kind.isSlash (k : Kind) (c : Char) : Bool := c == '/' || (c == '\\' && k != .other)

def Kind.isEnd (k : Kind) (c : Char) : Bool := k.isSlash c || c == '?' || c == '#'

/-! ### User, host and port -/

/-- The characters before the last `@`, if there is one, and those after it. --/
def atLastAt (cs : List Char) : Option (List Char) × List Char :=
  let back := cs.reverse
  match back.dropWhile (· != '@') with
  | [] => (none, cs)
  | _ :: front => (some front.reverse, (back.takeWhile (· != '@')).reverse)

/-- The user and the password, which starts after the first colon. --/
def login (cs : List Char) : String × Option String :=
  let encoded (cs : List Char) : String := String.ofList (Percent.encodeChars Percent.userinfoSet cs)
  match cs.dropWhile (· != ':') with
  | _ :: c :: rest => (encoded (cs.takeWhile (· != ':')), some (encoded (c :: rest)))
  | _ => (encoded (cs.takeWhile (· != ':')), none)

/-- The characters of the host, up to a colon outside brackets, and those after it. --/
def hostChars : Bool → List Char → List Char × List Char
  | _, [] => ([], [])
  | inside, c :: rest =>
    if c = ':' ∧ ¬inside then ([], c :: rest)
    else
      let (host, more) := hostChars (if c = '[' then true else if c = ']' then false else inside) rest
      (c :: host, more)

/-- The port that stands after a colon; none if nothing does. A backslash ends it. --/
def readPort (cs : List Char) : Except UrlError (Option Nat × List Char) :=
  let digits := cs.takeWhile Char.isDigit
  let rest := cs.dropWhile Char.isDigit
  let n := digits.foldl (fun n c => n * 10 + (c.toNat - 48)) 0
  if 65535 < n ∨ ¬(rest = [] ∨ rest.head? = some '\\') then .error .port
  else .ok (if digits = [] then none else some n, rest)

/-- The parts of a URL that stand behind its two slashes, and what follows them. --/
structure Authority where
  username : String
  password : Option String
  host : Option Host
  port : Option Nat
  rest : List Char

/-- The host of a scheme; none if it may be empty and is. --/
def hostOf (k : Kind) (cs : List Char) (portFollows : Bool) : Except UrlError (Option Host) :=
  if cs = [] ∧ (k ≠ .other ∨ portFollows) then .error .emptyHost
  else if k ≠ .other then (Host.read cs).map some
  else if cs = [] then .ok none
  else (Host.readOpaque cs).map some

def authority (scheme : String) (cs : List Char) : Except UrlError Authority := do
  let k := Kind.ofScheme scheme
  let tail := cs.dropWhile fun c => !k.isEnd c
  let (user, site) := atLastAt (cs.takeWhile fun c => !k.isEnd c)
  if user = some [] ∧ site = [] ∧ tail ≠ [] then throw .emptyHost
  let (username, password) := login (user.getD [])
  let (name, more) := hostChars false site
  let host ← hostOf k name (more ≠ [])
  let (port, rest) ← readPort (more.drop 1)
  if host.isNone ∧ (username ≠ "" ∨ password.isSome) then throw .emptyHost
  return ⟨username, password, host, if port = defaultPort? scheme then none else port, rest ++ tail⟩

/-! ### The path -/

def pieces (isSlash : Char → Bool) : List Char → List (List Char)
  | [] => [[]]
  | c :: rest =>
    if isSlash c then [] :: pieces isSlash rest
    else
      match pieces isSlash rest with
      | [] => [[c]]
      | s :: more => (c :: s) :: more

/-- A segment with every encoded dot put as a dot. --/
def dotsShown : List Char → List Char
  | '%' :: '2' :: 'e' :: rest => '.' :: dotsShown rest
  | '%' :: '2' :: 'E' :: rest => '.' :: dotsShown rest
  | c :: rest => c :: dotsShown rest
  | [] => []

/-- A letter with a colon, or with a bar that stands for one, which names a drive. --/
def drive? (cs : List Char) : Option Char :=
  match cs with
  | [c, ':'] => if c.isAlpha then some c else none
  | [c, '|'] => if c.isAlpha then some c else none
  | _ => none

/-- The segments so far, the last one first, and whether a drive was found at their start. --/
structure Climb where
  back : List (List Char)
  drive : Bool

/-- Leaves the last segment, unless it names a drive. --/
def Climb.leave (s : Climb) : Climb :=
  match s.back with
  | [] => s
  | d :: rest => if (drive? d).isSome then s else { s with back := rest }

/-- Enters a segment. In a file a drive at the start stands alone. --/
def Climb.enter (file : Bool) (s : Climb) (cs : List Char) : Climb :=
  let segment := Percent.encodeChars Percent.pathSet cs
  if file ∧ s.back = [] then
    match drive? cs, cs with
    | some d, _ => ⟨[[d, ':']], true⟩
    | none, d :: ':' :: rest =>
      if d.isAlpha then { s with back := [Percent.encodeChars Percent.pathSet rest, [d, ':']] }
      else { s with back := [segment] }
    | none, _ => { s with back := [segment] }
  else { s with back := segment :: s.back }

/-- Goes along the segments of a path. One dot stays, two dots leave a segment; at the end both leave an empty
    segment. --/
def climb (file : Bool) (s : Climb) : List (List Char) → Climb
  | [] => s
  | cs :: rest =>
    let ends (s : Climb) : Climb := if rest = [] then { s with back := [] :: s.back } else s
    if dotsShown cs = ['.'] then climb file (ends s) rest
    else if dotsShown cs = ['.', '.'] then climb file (ends s.leave) rest
    else climb file (s.enter file cs) rest

def climbed (k : Kind) (cs : List Char) : Climb := climb (k == .file) ⟨[], false⟩ (pieces k.isSlash cs)

def Climb.path (s : Climb) : UrlPath := .rooted (s.back.reverse.map String.ofList)

/-- The path of a file, in which empty segments at the front do not count. --/
def Climb.filePath (s : Climb) : UrlPath :=
  match s.back.reverse.dropWhile (· = []) with
  | [] => .rooted [""]
  | segments => .rooted (segments.map String.ofList)

/-! ### All parts -/

/-- What comes after the host: the path, the query and the fragment. --/
structure Tail where
  path : List Char
  query : Option String
  fragment : Option String

/-- The characters after the first `c`, if there is one. --/
def after (c : Char) (cs : List Char) : Option (List Char) := (cs.dropWhile (· != c)).tail?

def Tail.read (k : Kind) (cs : List Char) : Tail :=
  let front := cs.takeWhile (· != '#')
  let querySet := if k = .other then Percent.querySet else Percent.specialQuerySet
  ⟨front.takeWhile (· != '?'), (after '?' front).map fun q => String.ofList (Percent.encodeChars querySet q),
    (after '#' cs).map fun f => String.ofList (Percent.encodeChars Percent.fragmentSet f)⟩

/-- Without the separator at the front, if there is one. --/
def withoutSlash (k : Kind) (cs : List Char) : List Char := if cs.head?.any k.isSlash then cs.drop 1 else cs

/-- Reads a URL behind the two slashes before its host. --/
def readNetwork (scheme : String) (cs : List Char) : Except UrlError Url := do
  let k := Kind.ofScheme scheme
  let a ← authority scheme cs
  let t := Tail.read k a.rest
  let path := if k = .other ∧ t.path = [] then .rooted [] else (climbed k (withoutSlash k t.path)).path
  return ⟨scheme, a.username, a.password, a.host, a.port, path, t.query, t.fragment⟩

/-- The host that is written in the URL of a file; none if it is this one. --/
def fileHost (cs : List Char) : Except UrlError (Option Host) :=
  if cs = [] then .ok none
  else (Host.read cs).map fun h => if h = .domain "localhost" then none else some h

/-- Reads the URL of a file from its host on. --/
def readFileHost (cs : List Char) : Except UrlError (Option Host × List Char) := do
  let name := cs.takeWhile fun c => !Kind.file.isEnd c
  if (drive? name).isSome then return (none, cs)
  let rest := cs.dropWhile fun c => !Kind.file.isEnd c
  let host ← fileHost name
  return (host, if host.isSome then withoutSlash .file rest else rest)

/-- Reads the URL of a file. Its host is not there if the path starts with a drive. --/
def readLocal (cs : List Char) : Except UrlError Url := do
  let (host, rest) ← match cs with
    | a :: b :: rest =>
      if Kind.file.isSlash a && Kind.file.isSlash b then readFileHost rest else pure (none, withoutSlash .file cs)
    | _ => pure (none, withoutSlash .file cs)
  let t := Tail.read .file rest
  let s := climbed .file t.path
  return ⟨"file", "", none, if s.drive then none else host, none, s.filePath, t.query, t.fragment⟩

/-- Reads a URL of a scheme that says nothing about hosts and paths. --/
def readOther (scheme : String) (cs : List Char) : Except UrlError Url :=
  match cs with
  | '/' :: '/' :: rest => readNetwork scheme rest
  | '/' :: rest =>
    let t := Tail.read .other rest
    .ok ⟨scheme, "", none, none, none, (climbed .other t.path).path, t.query, t.fragment⟩
  | _ =>
    let t := Tail.read .other cs
    .ok ⟨scheme, "", none, none, none, .plain (String.ofList (Percent.encodeChars [] t.path)), t.query, t.fragment⟩

def read (text : String) : Except UrlError Url :=
  match scheme? (cleaned text) with
  | none => .error .relative
  | some (scheme, rest) =>
    match Kind.ofScheme scheme with
    | .network => readNetwork scheme (rest.dropWhile Kind.network.isSlash)
    | .file => readLocal rest
    | .other => readOther scheme rest

end Url
end AnsibleStaging
