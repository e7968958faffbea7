import AnsibleStaging.CommandLine.Refusal
import AnsibleStaging.Text.Similar

/-! Reading the words of a command line against the form of a command. A word is taken only when the next one is
    looked at, so that of two things that are wrong the earlier one is reported. The command that follows is read
    to its end before what stands in front of it is completed. -/

namespace AnsibleStaging
namespace CommandLine

/-- How far the words of a command have been read. --/
structure Reading where
  /-- What was taken, by the names of flags and arguments. --/
  values : List (String × String)
  /-- What comes next into `values`; without a value, a flag that waits for it. --/
  pending : Option (String × Option String)
  /-- Whether something was taken, even if it was given up again. --/
  touched : Bool
  /-- Whether all words that follow stand for themselves. --/
  literal : Bool
  /-- The number of arguments met. --/
  place : Nat

namespace Reading

def start : Reading := ⟨[], none, false, false, 0⟩

def has (s : Reading) (name : String) : Bool := (s.values.lookup name).isSome

def add (s : Reading) (name value : String) : Reading :=
  { s with values := s.values ++ [(name, value)], pending := none, touched := true }

def drop (s : Reading) (name : String) : Reading :=
  { s with values := s.values.filter fun v => v.1 != name, pending := none }

def waits (s : Reading) : Bool := !s.literal && s.pending.any fun p => p.2.isNone

/-- Takes what is pending, if it can be taken. --/
def settled (s : Reading) : Reading :=
  match s.pending with
  | some (name, some value) => if s.has name then s.drop name else s.add name value
  | some (_, none) => { s with pending := none }
  | none => s

end Reading

namespace Form

/-- How a flag or an argument is shown. --/
def shown (f : Form) (name : String) : String := ((f.flag? name).map Flag.text).getD ("<" ++ name ++ ">")

def take (f : Form) (s : Reading) (name value : String) : Except Stop Reading :=
  if s.has name then .error (f.refuse (.repeated (f.shown name)) none f.usage) else .ok (s.add name value)

def settle (f : Form) (s : Reading) : Except Stop Reading :=
  match s.pending with
  | some (name, some value) => f.take s name value
  | some (name, none) => .error (.refused ⟨.missingValue (f.shown name), none, none, f.hasHelp⟩)
  | none => .ok s

/-! ### Flags -/

/-- The flag that is most like a name that the command does not know: one of its own, or else one of a command whose
    name follows, the earliest such name first. --/
def similarFlag (f : Form) (name : String) (rest : List String) : Option (Option String × Flag) :=
  let best (g : Form) := (Similar.among (g.allFlags.map (·.name)) name).getLast?.bind g.flag?
  match best f with
  | some g => some (none, g)
  | none =>
    let others := f.commands.filterMap fun c => do
      return (← rest.findIdx? (· == c.name), some c.name, ← best c)
    ((others.mergeSort fun a b => decide (a.1 ≤ b.1)).head?).map (·.2)

/-- How the command is used, after what was taken and with the flags that are meant. --/
def usageOf (f : Form) (s : Reading) (flags : List Flag) : String :=
  if s.touched then f.usageAfter flags
  else if flags.isEmpty then f.usage
  else f.usageWith flags

/-- The tip to let a word stand for itself, where the command takes arguments. --/
def asValue (f : Form) (word : String) : Option Tip := if f.arguments.isEmpty then none else some (.asValue word)

/-- Refuses a flag that the command does not have. --/
def unknownFlag (f : Form) (s : Reading) (name : String) (rest : List String) : Stop :=
  let word := "--" ++ name
  let s := s.settled
  match f.similarFlag name rest with
  | some (none, g) =>
    let s := { s with touched := s.touched || f.flags.contains g }
    f.refuse (.unexpected word) (some (.similarFlag ("--" ++ g.name))) (f.usageOf s [g])
  | some (some c, g) => f.refuse (.unexpected word) (some (.flagOf c ("--" ++ g.name))) (f.usageOf s [])
  | none => f.refuse (.unexpected word) (f.asValue word) (f.usageOf s [])

def takeSwitch (f : Form) (s : Reading) (g : Flag) : Except Stop Reading := do
  let s ← f.settle s
  if g = Flag.forHelp then .error (.help f) else f.take s g.name "true"

/-- Takes a flag by its name, with what is attached to it. --/
def takeFlag (f : Form) (s : Reading) (name : String) (attached : Option String) (rest : List String) :
    Except Stop Reading :=
  match f.flag? name with
  | none => .error (f.unknownFlag s name rest)
  | some g =>
    match g.value, attached with
    | none, none => f.takeSwitch s g
    | none, some value => .error (f.refuse (.unwantedValue value g.text) none (f.usageOf s [g]))
    | some _, some value => do f.take (← f.settle s) g.name value
    | some _, none => do return { ← f.settle s with pending := some (g.name, none) }

/-- Takes a flag by its letter. A letter that the command does not know is refused before what follows it. --/
def takeLetters (f : Form) (s : Reading) : List Char → Except Stop Reading
  | [] => .ok s
  | c :: rest =>
    match f.allFlags.find? fun g => g.letter == some c with
    | some g => do f.takeLetters (← f.takeSwitch s g) rest
    | none =>
      let word := String.ofList ['-', c]
      .error (f.refuse (.unexpected word) (f.asValue word) f.usage)

/-! ### Words -/

/-- Refuses a word that the command has no place for. --/
def unplaced (f : Form) (s : Reading) (word : String) : Stop :=
  let similar := Similar.among (f.commands.map (·.name)) word
  if s.literal && (f.command? word).isSome then f.refuse (.unexpected word) (some (.withoutDashes word)) f.usage
  else if !similar.isEmpty then f.refuse (.unknownCommand word) (some (.similarCommands similar)) f.usage
  else if !f.commands.isEmpty && f.arguments.isEmpty then f.refuse (.unknownCommand word) none f.usage
  else f.refuse (.unexpected word) none f.usage

/-- Takes a word as the argument whose turn it is. --/
def takeArgument (f : Form) (s : Reading) (word : String) : Except Stop Reading :=
  match f.arguments[s.place]? with
  | some a => do
    return { ← f.settle s with pending := some (a.name, some word), place := if a.repeats then s.place else s.place + 1 }
  | none => .error (f.unplaced s word)

/-- Takes a word that is no command and not `--`. --/
def takeWord (f : Form) (s : Reading) (word : String) (rest : List String) : Except Stop Reading :=
  match s.literal, word.toList with
  | false, '-' :: '-' :: cs =>
    let name := String.ofList (cs.takeWhile (· != '='))
    let attached := match cs.dropWhile (· != '=') with
      | [] => none
      | _ :: value => some (String.ofList value)
    f.takeFlag s name attached rest
  | false, '-' :: c :: cs => f.takeLetters s (c :: cs)
  | _, _ =>
    match s.waits, s.pending with
    | true, some (name, _) => .ok { s with pending := some (name, some word) }
    | _, _ => f.takeArgument s word

/-! ### The end of the words -/

/-- Takes from the environment what no word gave. --/
def takeEnvironment (f : Form) (env : Environment) (s : Reading) : Except Stop Reading :=
  f.flags.foldlM (fun s g =>
    match if s.has g.name then none else g.environmentName.bind env with
    | none => .ok s
    | some bytes =>
      match Utf8.decode? bytes with
      | some value => .ok (s.add g.name value)
      | none => .error (f.refuse .notText none f.usage)) s

/-- Looks whether all is there that the command needs. --/
def requireAll (f : Form) (s : Reading) (followed : Bool) : Except Stop Unit :=
  let missing := f.arguments.filter fun a => a.required && !s.has a.name
  if !f.commands.isEmpty && !followed then
    if s.values.isEmpty then .error (.nothing f)
    else .error (f.refuse (.missingCommand (String.intercalate " " f.call) (f.commands.map (·.name))) none f.usage)
  else if missing.isEmpty then .ok ()
  else
    .error (f.refuse (.missingArguments (missing.map Argument.text)) none
      (f.usageWith (s.values.filterMap fun v => f.flags.find? fun g => g.name == v.1)))

/-- The values of the arguments that were not given. --/
def defaults (f : Form) (s : Reading) : List (String × String) :=
  f.arguments.filterMap fun a => if s.has a.name then none else a.default.map fun d => (a.name, d)

end Form

/-- A command with the values that it was given. --/
structure Level where
  name : String
  values : List (String × String)
deriving DecidableEq

namespace Form

/-- Completes what was read of a command; `followed` says whether another command follows. --/
def complete (f : Form) (env : Environment) (s : Reading) (followed : Bool) : Except Stop Level := do
  let s ← f.takeEnvironment env (← f.settle s)
  f.requireAll s followed
  return ⟨f.name, s.values ++ f.defaults s⟩

/-- The command that asks for help on others. --/
def helpName : String := "help"

/-- The help on the command that is reached by names. --/
def helpOn (f : Form) : List String → Stop
  | [] => .help f
  | word :: rest =>
    match f.command? word with
    | some g => g.helpOn rest
    | none => f.refuse (.unknownCommand word) none f.usage

/-- Reads the words of a command and of those that follow it, the outermost first. --/
def read (env : Environment) (f : Form) (s : Reading) : List String → Except Stop (List Level)
  | [] => do return [← f.complete env s false]
  | word :: rest =>
    match if s.literal || s.waits then none else f.command? word with
    | some g =>
      if g.name = helpName then .error (f.helpOn rest)
      else do
        let levels ← read env g .start rest
        return (← f.complete env s true) :: levels
    | none =>
      if !s.literal && word == "--" then read env f { s with literal := true } rest
      else do read env f (← f.takeWord s word rest) rest

end Form
end CommandLine
end AnsibleStaging
