import AnsibleStaging.CommandLine.Ending
import AnsibleStaging.CommandLine.Help

/-! Why a command line is not accepted, in a text that says what is wrong, may give a tip, and mostly shows how the
    command is used. -/

namespace AnsibleStaging
namespace CommandLine

inductive Misuse where
  | missingValue (flag : String)
  | unwantedValue (value flag : String)
  | repeated (what : String)
  | unexpected (word : String)
  | unknownCommand (word : String)
  | missingCommand (name : String) (commands : List String)
  | missingArguments (arguments : List String)
  | notText
deriving DecidableEq

def Misuse.message : Misuse → String
  | missingValue flag => "a value is required for '" ++ flag ++ "' but none was supplied"
  | unwantedValue value flag => "unexpected value '" ++ value ++ "' for '" ++ flag ++ "' found; no more were expected"
  | repeated what => "the argument '" ++ what ++ "' cannot be used multiple times"
  | unexpected word => "unexpected argument '" ++ word ++ "' found"
  | unknownCommand word => "unrecognized subcommand '" ++ word ++ "'"
  | missingCommand name commands =>
    "'" ++ name ++ "' requires a subcommand but one was not provided\n  [subcommands: " ++
      String.intercalate ", " commands ++ "]"
  | missingArguments arguments =>
    "the following required arguments were not provided:" ++ String.join (arguments.map ("\n  " ++ ·))
  | notText => "invalid UTF-8 was detected in one or more arguments"

inductive Tip where
  | similarFlag (flag : String)
  | similarCommands (names : List String)
  | flagOf (command flag : String)
  | asValue (word : String)
  | withoutDashes (command : String)
deriving DecidableEq

def inQuotes (s : String) : String := "'" ++ s ++ "'"

def Tip.message : Tip → String
  | similarFlag flag => "a similar argument exists: " ++ inQuotes flag
  | similarCommands [name] => "a similar subcommand exists: " ++ inQuotes name
  | similarCommands names => "some similar subcommands exist: " ++ String.intercalate ", " (names.map inQuotes)
  | flagOf command flag => inQuotes (command ++ " " ++ flag) ++ " exists"
  | asValue word => "to pass " ++ inQuotes word ++ " as a value, use " ++ inQuotes ("-- " ++ word)
  | withoutDashes command => "subcommand " ++ inQuotes command ++ " exists; to use it, remove the '--' before it"

structure Refusal where
  problem : Misuse
  tip : Option Tip
  usage : Option String
  /-- Whether the command has a flag that asks for help. --/
  hasHelp : Bool
deriving DecidableEq

def Refusal.text (r : Refusal) : String :=
  "error: " ++ r.problem.message ++ r.tip.elim "" (fun t => "\n\n  tip: " ++ t.message) ++
    r.usage.elim "" (fun u => "\n\nUsage: " ++ u) ++
    (if r.hasHelp then "\n\nFor more information, try '--help'." else "") ++ "\n"

/-- What ends the program before it does anything. --/
inductive Stop where
  /-- Help was asked for. --/
  | help (f : Form)
  /-- Nothing was asked for. --/
  | nothing (f : Form)
  | refused (r : Refusal)

def Stop.ending (env : Environment) : Stop → Ending
  | help f => ⟨0, f.help env, ""⟩
  | nothing f => ⟨2, "", f.help env⟩
  | refused r => ⟨2, "", r.text⟩

def Form.refuse (f : Form) (problem : Misuse) (tip : Option Tip) (usage : String) : Stop :=
  .refused ⟨problem, tip, some usage, f.hasHelp⟩

end CommandLine
end AnsibleStaging
