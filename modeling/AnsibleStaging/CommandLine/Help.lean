import AnsibleStaging.CommandLine.Form
import AnsibleStaging.Credentials.Extract
import AnsibleStaging.Text.Utf8

/-! The help on a command. Each entry stands in a line of its own, and what is said of the entries of one section
    starts in one column. -/

namespace AnsibleStaging
namespace CommandLine

/-- An entry of a section: what it is about, and what is said of it. --/
abbrev Entry := String × String

/-- Text whose lines but the first are moved to a column. --/
def hanging (column : Nat) (text : String) : String :=
  String.intercalate ("\n" ++ String.ofList (List.replicate column ' ')) (text.splitOn "\n")

/-- A line of a section whose longest label has `width` characters. --/
def Entry.line (width : Nat) (e : Entry) : String :=
  "  " ++ e.1 ++ String.ofList (List.replicate (width + 2 - e.1.length) ' ') ++ hanging (width + 4) e.2 ++ "\n"

def helpSection (title : String) (entries : List Entry) : List String :=
  let width := (entries.map fun e => e.1.length).foldl max 0
  if entries.isEmpty then [] else [title ++ ":\n" ++ String.join (entries.map (Entry.line width))]

/-- What is said of something, with a note behind it. --/
def noted (about title : String) (note : Option String) : String :=
  note.elim about fun n => about ++ " [" ++ title ++ ": " ++ n ++ "]"

def Flag.entry (env : Environment) (g : Flag) : Entry :=
  let letter := match g.letter with
    | some c => String.ofList ['-', c, ',', ' ']
    | none => "    "
  (letter ++ g.text,
    noted g.about "env" (g.environmentName.map fun v => v ++ "=" ++ (env v).elim "" Utf8.lossy))

def Argument.entry (a : Argument) : Entry := (a.text, noted a.about "default" a.default)

def Form.help (env : Environment) (f : Form) : String :=
  String.intercalate "\n"
    ([f.about ++ "\n", "Usage: " ++ f.usage ++ "\n"] ++
      helpSection "Commands" (f.commands.map fun g => (g.name, g.about)) ++
      helpSection "Arguments" (f.arguments.map Argument.entry) ++
      helpSection "Options" (f.allFlags.map (Flag.entry env)))

end CommandLine
end AnsibleStaging
