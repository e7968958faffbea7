/-! How the program ends: its code, and what it wrote. -/

namespace AnsibleStaging
namespace CommandLine

structure Ending where
  code : Nat
  output : String
  errors : String
deriving DecidableEq

/-- Why the program gives up, with what led to it, outermost first. --/
structure Failure where
  what : String
  causes : List String
deriving DecidableEq

namespace Failure

/-- Text whose lines but the first start after `margin`, and the first after `head`. --/
def cause (head margin text : String) : String := "\n" ++ head ++ String.intercalate ("\n" ++ margin) (text.splitOn "\n")

def number (n : Nat) : String :=
  let digits := Nat.toDigits 10 n
  String.ofList (List.replicate (5 - digits.length) ' ' ++ digits) ++ ": "

/-- The causes as they are listed. Only if there are several, they have numbers. --/
def listed : List String → String
  | [] => ""
  | [c] => "\n\nCaused by:" ++ cause "    " "    " c
  | cs => "\n\nCaused by:" ++ String.join (cs.zipIdx.map fun c => cause (number c.2) "       " c.1)

def text (f : Failure) : String := "Error: " ++ f.what ++ listed f.causes ++ "\n"

end Failure

namespace Ending

def success (output : String) : Ending := ⟨0, output, ""⟩

/-- The end after a failure, when `output` was already written. --/
def failed (output : String) (f : Failure) : Ending := ⟨1, output, f.text⟩

end Ending
end CommandLine
end AnsibleStaging
