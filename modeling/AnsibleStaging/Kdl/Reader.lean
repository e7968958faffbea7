import AnsibleStaging.Kdl.Document
import AnsibleStaging.Kdl.Lexical

/-! Reading documents. Nodes end with their line, a semicolon, the text or the brace that closes their parent;
    entries stand apart from each other, children may follow at once. What a slash and a dash precede is read
    and left out. -/

namespace AnsibleStaging
namespace Kdl

/-- The rest of `cs` after the letters of `word`. --/
def after? (word : String) (cs : List Char) : Option (List Char) :=
  if word.toList.isPrefixOf cs then some (cs.drop word.length) else none

def words : List (String × Value) :=
  [("#true", .bool true), ("#false", .bool false), ("#null", .null), ("#inf", .num "#inf"), ("#-inf", .num "#-inf"),
    ("#nan", .num "#nan")]

def readWord (cs : List Char) : Option (Value × List Char) :=
  words.findSome? fun w => (after? w.1 cs).map (w.2, ·)

/-- A type in parentheses, if one is there. --/
def skipType (fuel : Nat) (cs : List Char) : Option (List Char) :=
  match cs with
  | '(' :: rest => do
    let rest ← skipWithinNode fuel rest
    let (_, rest) ← readString rest
    let rest ← skipWithinNode fuel rest
    match rest with
    | ')' :: rest => skipWithinNode fuel rest
    | _ => none
  | _ => some cs

/-- A number, up to the next character that cannot be part of a word. --/
def readNumber (cs : List Char) : Option (Value × List Char) :=
  let literal := cs.takeWhile isIdentifier
  if isNumber literal then some (.num (String.ofList literal), cs.dropWhile isIdentifier) else none

def readPlainValue (cs : List Char) : Option (Value × List Char) :=
  match readNumber cs with
  | some r => some r
  | none =>
    match readWord cs with
    | some r => some r
    | none => (readString cs).map fun r => (.str (String.ofList r.1), r.2)

def readValue (fuel : Nat) (cs : List Char) : Option (Value × List Char) := do
  let rest ← skipType fuel cs
  readPlainValue rest

/-- The rest after an equals sign that may have blanks on both sides. --/
def skipEquals? (fuel : Nat) (cs : List Char) : Option (List Char) := do
  match ← skipWithinNode fuel cs with
  | '=' :: rest => skipWithinNode fuel rest
  | _ => none

/-- An argument or a property. Only a plain string can name a property. --/
def readEntry (fuel : Nat) (cs : List Char) : Option (Entry × List Char) :=
  match cs with
  | '(' :: _ => (readValue fuel cs).map fun r => (.argument r.1, r.2)
  | _ =>
    match readPlainValue cs with
    | none => none
    | some (.str name, rest) =>
      match skipEquals? fuel rest with
      | some rest => (readValue fuel rest).map fun r => (.property name r.1, r.2)
      | none => some (.argument (.str name), rest)
    | some (v, rest) => some (.argument v, rest)

def startsBlank : List Char → Bool
  | '/' :: '*' :: _ => true
  | c :: _ => isSpace c || c == '\\'
  | [] => false

mutual

/-- Nodes up to the end of the text, or to the brace that closes their parent. --/
def readNodes (fuel : Nat) (nested : Bool) (cs : List Char) : Option (List Node × List Char) :=
  match fuel with
  | 0 => none
  | fuel + 1 =>
    match skipBetweenNodes fuel cs with
    | none => none
    | some [] => if nested then none else some ([], [])
    | some ('\x7d' :: rest) => if nested then some ([], rest) else none
    | some ('/' :: '-' :: rest) => do
      let rest ← skipBetweenNodes fuel rest
      let (_, rest) ← readNode fuel rest
      readNodes fuel nested rest
    | some rest => do
      let (n, rest) ← readNode fuel rest
      let (more, rest) ← readNodes fuel nested rest
      some (n :: more, rest)

def readNode (fuel : Nat) (cs : List Char) : Option (Node × List Char) :=
  match fuel with
  | 0 => none
  | fuel + 1 => do
    let rest ← skipType fuel cs
    let (name, rest) ← readString rest
    let (entries, children, rest) ← readParts fuel [] none rest
    some (.mk (String.ofList name) entries (children.getD []), rest)

/-- The entries and children of a node. `entries` holds those read, backwards; after children come no more. --/
def readParts (fuel : Nat) (entries : List Entry) (children : Option (List Node)) (cs : List Char) :
    Option (List Entry × Option (List Node) × List Char) :=
  match fuel with
  | 0 => none
  | fuel + 1 =>
    match skipWithinNode fuel cs with
    | none => none
    | some rest =>
      let apart := startsBlank cs
      match rest with
      | ';' :: rest => some (entries.reverse, children, rest)
      | '\x7d' :: _ => some (entries.reverse, children, rest)
      | '\x7b' :: rest =>
        if children.isSome then none
        else do
          let (nodes, rest) ← readNodes fuel true rest
          readParts fuel entries (some nodes) rest
      | '/' :: '-' :: rest =>
        if apart then do
          let rest ← skipBetweenNodes fuel rest
          match rest with
          | '\x7b' :: rest =>
            let (_, rest) ← readNodes fuel true rest
            readParts fuel entries children rest
          | rest =>
            if children.isSome then none
            else
              let (_, rest) ← readEntry fuel rest
              readParts fuel entries none rest
        else none
      | rest =>
        match lineEnd? rest with
        | some rest => some (entries.reverse, children, rest)
        | none =>
          if apart ∧ children.isNone then do
            let (e, rest) ← readEntry fuel rest
            readParts fuel (e :: entries) none rest
          else none

end

/-- The document that `text` writes. A mark of the byte order may stand in front. --/
def parse? (text : String) : Option Document :=
  let cs := match text.toList with
    | c :: rest => if c.toNat = 0xFEFF then rest else c :: rest
    | [] => []
  (readNodes (2 * cs.length + 3) false cs).map (·.1)

end Kdl
end AnsibleStaging
