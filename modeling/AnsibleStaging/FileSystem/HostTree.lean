import AnsibleStaging.FileSystem.Host

/-! A host's file tree. A path is walked piece by piece from the root or from the current directory; every
    piece but the last has to lead into a directory. A host may bound how long names and paths are. -/

namespace AnsibleStaging

inductive HostNode where
  | dir (mode : FileMode)
  | file (data : ByteArray) (mode : FileMode)
deriving DecidableEq

/-- The bytes that the name of an entry and the text of a path have at most, where there is a bound. --/
structure HostLimits where
  name : Option Nat
  path : Option Nat

namespace HostLimits

/-- Names of at most 255 bytes and paths of fewer than 4096. --/
def usual : HostLimits := ⟨some 255, some 4095⟩

def exceeds (bound : Option Nat) (s : String) : Bool := bound.elim false fun n => decide (n < s.utf8ByteSize)

end HostLimits

/-- The tree by the names that lead to each entry from the root, which is always there; with the current
    directory, the mode bits that new entries lose and the number of names made up so far. --/
structure HostTree where
  entries : List (List String × HostNode)
  current : List String
  masked : Nat
  named : Nat
  limits : HostLimits

namespace HostTree

def empty : HostTree := ⟨[], [], 0o022, 0, .usual⟩

def get? (t : HostTree) (place : List String) : Option HostNode :=
  if place = [] then some (.dir ⟨0o755⟩) else (t.entries.find? fun e => e.1 == place).map (·.2)

def put (t : HostTree) (place : List String) (n : HostNode) : HostTree :=
  { t with entries := (place, n) :: t.entries.filter fun e => e.1 != place }

def erase (t : HostTree) (place : List String) : HostTree :=
  { t with entries := t.entries.filter fun e => e.1 != place }

/-- Fails unless a directory is at the place. --/
def requireDir (t : HostTree) (place : List String) : Except HostCode Unit :=
  match t.get? place with
  | some (.dir _) => .ok ()
  | some (.file _ _) => .error .notDirectory
  | none => .error .noEntry

/-- Goes on from a place through the pieces of a path. --/
def walk (t : HostTree) : List String → List String → Except HostCode (List String)
  | place, [] => .ok place
  | place, piece :: rest => do
    t.requireDir place
    if piece = "" ∨ piece = "." then t.walk place rest
    else if piece = ".." then t.walk place.dropLast rest
    else if HostLimits.exceeds t.limits.name piece then .error .nameTooLong
    else t.walk (place ++ [piece]) rest

/-- The pieces of a path, empty ones included. --/
def pieces (p : Path) : List String := (Path.segments p.text.toList).map String.ofList

def start (t : HostTree) (p : Path) : List String := if p.isAbsolute then [] else t.current

/-- A path that the host looks at at all. --/
def inspect (t : HostTree) (p : Path) : Except IoError Unit :=
  if p.text.toList.contains '\x00' then
    .error (.reported .invalidInput "file name contained an unexpected NUL byte")
  else if p.isEmpty then .error (.host .noEntry)
  else if HostLimits.exceeds t.limits.path p.text then .error (.host .nameTooLong)
  else .ok ()

/-- The place that a path leads to, whether or not something is there. --/
def resolve (t : HostTree) (p : Path) : Except IoError (List String) := do
  t.inspect p
  (t.walk (t.start p) (pieces p)).mapError .host

/-- The last piece of a path and the directory it is looked up in; slashes behind it are reported. --/
structure Target where
  parent : List String
  name : String
  slashed : Bool

/-- Finds the directory in which the last piece of a path stands; none for the root. --/
def target? (t : HostTree) (p : Path) : Except IoError (Option Target) := do
  t.inspect p
  let back := (pieces p).reverse
  match back.dropWhile (· == "") with
  | [] => .ok none
  | name :: before => do
    let parent ← (t.walk (t.start p) before.reverse).mapError .host
    (t.requireDir parent).mapError .host
    if name ≠ "." ∧ name ≠ ".." ∧ HostLimits.exceeds t.limits.name name then .error (.host .nameTooLong)
    else .ok (some ⟨parent, name, back.head? == some ""⟩)

def isDot (name : String) : Bool := name == "." || name == ".."

/-- Lifts a decision that leaves the tree alone, and an update of the tree that it may ask for. --/
def update (decide : HostTree → Except IoError HostTree) : FileAction HostTree Unit := fun t =>
  match decide t with
  | .ok t => (.ok (), t)
  | .error e => (.error e, t)

def makeDir (p : Path) (mode : FileMode) (t : HostTree) : Except IoError HostTree := do
  match ← t.target? p with
  | none => .error (.host .taken)
  | some w =>
    if isDot w.name then .error (.host .taken)
    else
      match t.get? (w.parent ++ [w.name]) with
      | some _ => .error (.host .taken)
      | none => .ok (t.put (w.parent ++ [w.name]) (.dir ⟨mode.bits &&& 0o1777 &&& (0o7777 ^^^ t.masked)⟩))

def isDir (t : HostTree) (p : Path) : Bool :=
  match t.resolve p with
  | .ok place => (t.requireDir place).isOk
  | .error _ => false

/-- The first of the ancestors, the longest first, that is there or can be made, with those passed over, the
    shortest first. --/
def climb (mode : FileMode) : List Path → List Path → HostTree → Except IoError (List Path × HostTree)
  | [], missing, t => .ok (missing, t)
  | a :: rest, missing, t =>
    if a.isEmpty ∨ a.parent.isNone then .ok (missing, t)
    else
      match makeDir a mode t with
      | .ok t => .ok (missing, t)
      | .error e =>
        if e.kind = .notFound then climb mode rest (a :: missing) t
        else if e.kind = .alreadyExists ∧ t.isDir a then .ok (missing, t)
        else .error e

/-- Makes directories one after the other; one that is there is no failure. --/
def descend (mode : FileMode) : List Path → FileAction HostTree Unit
  | [], t => (.ok (), t)
  | a :: rest, t =>
    match makeDir a mode t with
    | .ok t => descend mode rest t
    | .error e => if e.kind = .alreadyExists ∧ t.isDir a then descend mode rest t else (.error e, t)

def makeDirs (p : Path) (mode : FileMode) : FileAction HostTree Unit := fun t =>
  if p.isEmpty ∨ p.parent.isNone then (.ok (), t)
  else
    match climb mode p.ancestors [] t with
    | .error e => (.error e, t)
    | .ok (missing, t) => descend mode missing t

def createNew (p : Path) (mode : FileMode) : FileAction HostTree Unit := update fun t => do
  match ← t.target? p with
  | none => .error (.host .taken)
  | some w =>
    if isDot w.name then .error (.host .taken)
    else
      match t.get? (w.parent ++ [w.name]) with
      | some _ => .error (.host .taken)
      | none =>
        if w.slashed then .error (.host .isDirectory)
        else .ok (t.put (w.parent ++ [w.name]) (.file .empty ⟨mode.bits &&& (0o7777 ^^^ t.masked)⟩))

def changeFile (p : Path) (change : ByteArray → FileMode → HostNode) : FileAction HostTree Unit := update fun t => do
  let place ← t.resolve p
  match t.get? place with
  | none => .error (.host .noEntry)
  | some (.dir _) => .error (.host .isDirectory)
  | some (.file data mode) => .ok (t.put place (change data mode))

def append (p : Path) (more : ByteArray) : FileAction HostTree Unit :=
  changeFile p fun data mode => .file (data ++ more) mode

def setMode (p : Path) (mode : FileMode) : FileAction HostTree Unit :=
  changeFile p fun data _ => .file data ⟨mode.bits &&& 0o7777⟩

/-- Gives a file another name, over a file that has it but not over a directory. --/
def rename (source p : Path) : FileAction HostTree Unit := update fun t => do
  let old ← t.resolve source
  match ← t.target? p with
  | none => .error (.host .busy)
  | some w =>
    if isDot w.name then .error (.host .busy)
    else
      match t.get? old with
      | some (.file data mode) =>
        let new := w.parent ++ [w.name]
        if w.slashed then .error (.host .notDirectory)
        else
          match t.get? new with
          | some (.dir _) => .error (.host .isDirectory)
          | _ => .ok ((t.erase old).put new (.file data mode))
      | some (.dir _) => .error (.host .isDirectory)
      | none => .error (.host .noEntry)

def remove (p : Path) (t : HostTree) : HostTree :=
  match t.resolve p with
  | .ok place =>
    match t.get? place with
    | some (.file _ _) => t.erase place
    | _ => t
  | .error _ => t

def lookUp (t : HostTree) (p : Path) : Except IoError HostNode := do
  match t.get? (← t.resolve p) with
  | none => .error (.host .noEntry)
  | some n => .ok n

def read (p : Path) : FileAction HostTree ByteArray := fun t =>
  match t.lookUp p with
  | .ok (.file data _) => (.ok data, t)
  | .ok (.dir _) => (.error (.host .isDirectory), t)
  | .error e => (.error e, t)

/-- The calls of a host that takes the names it makes up from a row. --/
def callsNaming (names : Nat → String) : HostCalls HostTree where
  freshName t := (names t.named, { t with named := t.named + 1 })
  makeDirs := makeDirs
  createNew := createNew
  append := append
  flush p := changeFile p .file
  setMode := setMode
  rename := rename
  remove := remove
  read := read

/-- A number in thirty-six characters. --/
def counted (n : Nat) : String :=
  let digits := Nat.toDigits 10 n
  String.ofList (List.replicate (36 - digits.length) '0' ++ digits)

def calls : HostCalls HostTree := callsNaming counted

def fileSystem : FileSystem HostTree := calls.fileSystem

def placeText (place : List String) : String := "/" ++ String.intercalate "/" place

def below (t : HostTree) (dir : List String) : List (String × HostNode) :=
  ((t.entries.filter fun e => dir.isPrefixOf e.1 && e.1 != dir).map fun e => (placeText e.1, e.2)).mergeSort
    fun a b => decide (a.1 ≤ b.1)

end HostTree
end AnsibleStaging
