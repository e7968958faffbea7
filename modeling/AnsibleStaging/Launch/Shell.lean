import AnsibleStaging.FileSystem.HostTree

/-! A small shell: commands one after the other, joined by semicolons, `&&` or `||`, with quotes, variables and
    output sent to the error stream. It knows only commands that write, look at files or end it. -/

namespace AnsibleStaging
namespace Shell

structure Surroundings where
  tree : HostTree
  directory : Path
  environment : List (String × String)

/-! ### Words -/

inductive Token where
  | word (s : String)
  | next
  | ifDone
  | ifFailed
  | toErrors
deriving DecidableEq

def isNameChar (c : Char) : Bool := c.isAlphanum || c == '_'

/-- What a variable stands for; the shell's own number is one. --/
def lookUp (s : Surroundings) (name : List Char) : List Char :=
  match s.environment.find? fun v => v.1.toList == name with
  | some v => v.2.toList
  | none => []

/-- How characters are taken: as they are, between single quotes or between double quotes. --/
inductive Mode where
  | bare
  | single
  | double

/-- The word that has been read, if one has begun. --/
def closed (word : Option (List Char)) : List Token :=
  (word.map fun w => Token.word (String.ofList w.reverse)).toList

/-- The words and operators of a script; `word` holds the word being read, backwards, if one has begun. --/
def tokens (s : Surroundings) : Nat → Mode → Option (List Char) → List Char → List Token
  | 0, _, _, _ => []
  | fuel + 1, mode, word, cs =>
    let take (c : Char) (rest : List Char) := tokens s fuel mode (some (c :: word.getD [])) rest
    let insert (text rest : List Char) := tokens s fuel mode (some (text.reverse ++ word.getD [])) rest
    match mode, cs with
    | _, [] => closed word
    | .single, '\'' :: rest => tokens s fuel .bare (some (word.getD [])) rest
    | .single, c :: rest => take c rest
    | .double, '"' :: rest => tokens s fuel .bare (some (word.getD [])) rest
    | .double, '\\' :: c :: rest =>
      if ['$', '"', '\\'].contains c then take c rest else insert ['\\', c] rest
    | _, '$' :: '$' :: rest => insert ['1'] rest
    | _, '$' :: '\x7b' :: rest =>
      insert (lookUp s (rest.takeWhile isNameChar)) ((rest.dropWhile isNameChar).drop 1)
    | _, '$' :: rest => insert (lookUp s (rest.takeWhile isNameChar)) (rest.dropWhile isNameChar)
    | .double, c :: rest => take c rest
    | .bare, '\'' :: rest => tokens s fuel .single (some (word.getD [])) rest
    | .bare, '"' :: rest => tokens s fuel .double (some (word.getD [])) rest
    | .bare, '\\' :: c :: rest => take c rest
    | .bare, '>' :: '&' :: '2' :: rest => closed word ++ .toErrors :: tokens s fuel .bare none rest
    | .bare, '&' :: '&' :: rest => closed word ++ .ifDone :: tokens s fuel .bare none rest
    | .bare, '|' :: '|' :: rest => closed word ++ .ifFailed :: tokens s fuel .bare none rest
    | .bare, c :: rest =>
      if c = ' ' ∨ c = '\t' then closed word ++ tokens s fuel .bare none rest
      else if c = ';' ∨ c = '\n' then closed word ++ .next :: tokens s fuel .bare none rest
      else take c rest

/-! ### Commands -/

/-- What the shell has written, the result of the last command, and whether it has ended. --/
structure State where
  output : List UInt8
  errors : List UInt8
  status : Nat
  ended : Bool

def utf8 (s : String) : List UInt8 := s.toUTF8.toList

/-- The bytes of a text with backslash escapes; `\ooo` is the byte of an octal number. --/
def escapedBytes : List Char → List UInt8
  | '\\' :: 'n' :: rest => 10 :: escapedBytes rest
  | '\\' :: 't' :: rest => 9 :: escapedBytes rest
  | '\\' :: 'r' :: rest => 13 :: escapedBytes rest
  | '\\' :: '\\' :: rest => 92 :: escapedBytes rest
  | '\\' :: a :: b :: c :: rest =>
    if [a, b, c].all fun d => '0' ≤ d && d ≤ '7' then
      (((a.toNat - 48) * 8 + (b.toNat - 48)) * 8 + (c.toNat - 48)).toUInt8 :: escapedBytes rest
    else 92 :: escapedBytes (a :: b :: c :: rest)
  | c :: rest => utf8 c.toString ++ escapedBytes rest
  | [] => []

def formatted : List Char → List String → List UInt8
  | '%' :: '%' :: rest, args => 37 :: formatted rest args
  | '%' :: 's' :: rest, a :: args => utf8 a ++ formatted rest args
  | '%' :: 's' :: rest, [] => formatted rest []
  | '%' :: 'd' :: rest, a :: args => utf8 a ++ formatted rest args
  | '\\' :: c :: rest, args =>
    if '0' ≤ c ∧ c ≤ '7' then escapedBytes ('\\' :: c :: rest.take 2) ++ formatted (rest.drop 2) args
    else escapedBytes ['\\', c] ++ formatted rest args
  | c :: rest, args => utf8 c.toString ++ formatted rest args
  | [], _ => []
termination_by cs => cs.length
decreasing_by all_goals simp only [List.length_cons, List.length_drop]; omega

/-- Writes to the output or to the error stream. --/
def State.write (st : State) (toErrors : Bool) (bytes : List UInt8) : State :=
  if toErrors then { st with errors := st.errors ++ bytes, status := 0 }
  else { st with output := st.output ++ bytes, status := 0 }

/-- Writes the contents of files; the first that cannot be read is reported. --/
def concatenate (s : Surroundings) (toErrors : Bool) (st : State) (name : String) : State :=
  match (HostTree.read (s.directory.join name) s.tree).1 with
  | .ok data => { st.write toErrors data.toList with status := st.status }
  | .error (.host code) => { st with errors := st.errors ++ utf8 ("cat: " ++ name ++ ": " ++ code.text ++ "\n"), status := 1 }
  | .error _ => { st with status := 1 }

def perform (s : Surroundings) (words : List String) (toErrors : Bool) (st : State) : State :=
  match words with
  | [] => st
  | "echo" :: "-n" :: args => st.write toErrors (escapedBytes (String.intercalate " " args).toList)
  | "echo" :: args => st.write toErrors (escapedBytes (String.intercalate " " args).toList ++ [10])
  | "printf" :: format :: args => st.write toErrors (formatted format.toList args)
  | "pwd" :: _ => st.write toErrors (utf8 (s.directory.text ++ "\n"))
  | "cat" :: args => args.foldl (concatenate s toErrors) { st with status := 0 }
  | "exit" :: n :: _ => { st with status := n.toNat?.getD 2 % 256, ended := true }
  | "exit" :: _ => { st with ended := true }
  | "kill" :: _ => { st with status := 137, ended := true }
  | ":" :: _ => { st with status := 0 }
  | "true" :: _ => { st with status := 0 }
  | "false" :: _ => { st with status := 1 }
  | name :: _ => { st with errors := st.errors ++ utf8 ("/bin/sh: 1: " ++ name ++ ": not found\n"), status := 127 }

/-- Does the commands in turn. `words` holds those of the command being read, backwards, and `wanted` says
    whether it is to be done. --/
def go (s : Surroundings) (words : List String) (toErrors wanted : Bool) (st : State) : List Token → State
  | [] => if wanted && !st.ended then perform s words.reverse toErrors st else st
  | .word w :: rest => go s (w :: words) toErrors wanted st rest
  | .toErrors :: rest => go s words true wanted st rest
  | .next :: rest =>
    let st := if wanted && !st.ended then perform s words.reverse toErrors st else st
    go s [] false true st rest
  | .ifDone :: rest =>
    let st := if wanted && !st.ended then perform s words.reverse toErrors st else st
    go s [] false (st.status == 0) st rest
  | .ifFailed :: rest =>
    let st := if wanted && !st.ended then perform s words.reverse toErrors st else st
    go s [] false (st.status != 0) st rest

def run (s : Surroundings) (script : String) : State :=
  let cs := script.toList
  go s [] false true ⟨[], [], 0, false⟩ (tokens s (cs.length + 1) .bare none cs)

end Shell
end AnsibleStaging
