/-! The form of a command line: the flags and arguments that a command takes, the commands that go on from it, and
    the line that shows all this in short. -/

namespace AnsibleStaging
namespace CommandLine

/-- A flag. It takes a value if it has a name for one. --/
structure Flag where
  name : String
  letter : Option Char
  value : Option String
  about : String
  /-- The environment's variable that gives the value when the flag is not there. --/
  environmentName : Option String
deriving DecidableEq

namespace Flag

def switch (name about : String) : Flag := ⟨name, none, none, about, none⟩

def forHelp : Flag := ⟨"help", some 'h', none, "Print help", none⟩

def text (f : Flag) : String := "--" ++ f.name ++ f.value.elim "" fun v => " <" ++ v ++ ">"

end Flag

/-- An argument that is known by its place. --/
structure Argument where
  name : String
  about : String
  required : Bool
  /-- Whether any number of words stands for it. --/
  repeats : Bool
  default : Option String
deriving DecidableEq

def Argument.text (a : Argument) : String :=
  (if a.required then "<" ++ a.name ++ ">" else "[" ++ a.name ++ "]") ++ if a.repeats then "..." else ""

/-- A command: the name it is called by, what it is for, and what may follow the name. --/
structure Form where
  name : String
  /-- The names of the commands that lead to this one. --/
  before : List String
  about : String
  flags : List Flag
  arguments : List Argument
  commands : List Form
  /-- Whether it has a flag that asks for help. --/
  hasHelp : Bool

namespace Form

def allFlags (f : Form) : List Flag := f.flags ++ if f.hasHelp then [Flag.forHelp] else []

def flag? (f : Form) (name : String) : Option Flag := f.allFlags.find? fun g => g.name == name

def command? (f : Form) (name : String) : Option Form := f.commands.find? fun g => g.name == name

/-- The words by which the command is called. --/
def call (f : Form) : List String := f.before ++ [f.name]

/-- What stands for the command that must follow. --/
def commandPlace (f : Form) : List String := if f.commands.isEmpty then [] else ["<COMMAND>"]

def usage (f : Form) : String :=
  String.intercalate " "
    (f.call ++ (if f.flags.isEmpty then [] else ["[OPTIONS]"]) ++ f.arguments.map Argument.text ++ f.commandPlace)

/-- How the command is used with some of its flags. --/
def usageWith (f : Form) (flags : List Flag) : String :=
  String.intercalate " " (f.call ++ flags.map Flag.text ++ f.arguments.map Argument.text ++ f.commandPlace)

/-- All that the command takes, as a choice. --/
def choice (f : Form) : String :=
  "<" ++ String.intercalate "|" ((f.arguments.map (·.name)) ++ f.flags.map Flag.text) ++ ">"

/-- How the command is used once something that it takes was there; `flags` are further flags that are meant. --/
def usageAfter (f : Form) (flags : List Flag) : String :=
  let others := flags.filter fun g => !f.flags.contains g
  String.intercalate " " (f.call ++ others.map Flag.text ++ [f.choice] ++ f.commandPlace)

end Form
end CommandLine
end AnsibleStaging
