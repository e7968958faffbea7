import AnsibleStaging.Text.Hex

/-! The letters of the document language: blanks, line ends, comments, identifiers, strings and numbers. Every
    reader takes the characters that are left and answers what it read with the characters after it, or
    nothing when they do not start with what it reads. -/

namespace AnsibleStaging
namespace Kdl

/-! ### Classes of characters -/

/-- Code points that stand nowhere in a document. --/
def isDisallowed (c : Char) : Bool :=
  let n := c.toNat
  n ≤ 8 || (0x0E ≤ n && n ≤ 0x1F) || (0x200E ≤ n && n ≤ 0x200F) || (0x202A ≤ n && n ≤ 0x202E) ||
    (0x2066 ≤ n && n ≤ 0x2069) || n == 0xFEFF

def isSpace (c : Char) : Bool :=
  let n := c.toNat
  n == 9 || n == 0x20 || n == 0xA0 || n == 0x1680 || (0x2000 ≤ n && n ≤ 0x200A) || n == 0x202F || n == 0x205F ||
    n == 0x3000

def isNewline (c : Char) : Bool :=
  let n := c.toNat
  (0x0A ≤ n && n ≤ 0x0D) || n == 0x85 || n == 0x2028 || n == 0x2029

/-- The characters with a meaning of their own. --/
def isSpecial (c : Char) : Bool :=
  ['\\', '/', '(', ')', '\x7b', '\x7d', ';', '[', ']', '"', '#', '='].contains c

def isIdentifier (c : Char) : Bool := !isSpecial c && !isSpace c && !isNewline c && !isDisallowed c

def isSign (c : Char) : Bool := c == '+' || c == '-'

/-! ### Blanks -/

/-- A line end; a carriage return and a line feed make one. --/
def newline? : List Char → Option (List Char)
  | '\r' :: '\n' :: rest => some rest
  | c :: rest => if isNewline c then some rest else none
  | [] => none

/-- Passes over spaces and comments; `depth` comments are open. --/
def skipSpaces : Nat → List Char → Option (List Char)
  | 0, '/' :: '*' :: rest => skipSpaces 1 rest
  | 0, c :: rest => if isSpace c then skipSpaces 0 rest else some (c :: rest)
  | 0, [] => some []
  | depth + 1, '*' :: '/' :: rest => skipSpaces depth rest
  | depth + 1, '/' :: '*' :: rest => skipSpaces (depth + 2) rest
  | depth + 1, _ :: rest => skipSpaces (depth + 1) rest
  | _ + 1, [] => none

/-- Passes over a comment that ends with its line, and over the line end. --/
def skipLine (cs : List Char) : List Char :=
  let rest := cs.dropWhile fun c => !isNewline c
  (newline? rest).getD rest

/-- The end of a line, with or without a comment in front of it. --/
def lineEnd? : List Char → Option (List Char)
  | [] => some []
  | '/' :: '/' :: rest => some (skipLine rest)
  | cs => newline? cs

/-- Passes over what may stand between the parts of a node: spaces, comments and line ends that a backslash
    takes away. --/
def skipWithinNode : Nat → List Char → Option (List Char)
  | 0, _ => none
  | fuel + 1, cs =>
    match skipSpaces 0 cs with
    | none => none
    | some ('\\' :: rest) =>
      match skipSpaces 0 rest with
      | none => none
      | some rest =>
        match lineEnd? rest with
        | none => none
        | some rest => skipWithinNode fuel rest
    | some rest => some rest

/-- Passes over what may stand between nodes: the same, and line ends. --/
def skipBetweenNodes : Nat → List Char → Option (List Char)
  | 0, _ => none
  | fuel + 1, cs =>
    match skipWithinNode (fuel + 1) cs with
    | none => none
    | some [] => some []
    | some rest =>
      match lineEnd? rest with
      | some rest => skipBetweenNodes fuel rest
      | none => some rest

/-! ### Identifiers -/

/-- The words that stand for values only behind a number sign. --/
def keywords : List (List Char) := ["true", "false", "null", "inf", "nan"].map String.toList

/-- Whether characters make an identifier: they do not look like the start of a number and are no keyword. --/
def isBareWord (word : List Char) : Bool :=
  let unsigned := match word with
    | c :: rest => if isSign c then rest else word
    | [] => []
  let undotted := match unsigned with
    | '.' :: rest => rest
    | _ => unsigned
  !word.isEmpty && !(undotted.head?.any Char.isDigit) && !keywords.contains word

def readIdentifier (cs : List Char) : Option (List Char × List Char) :=
  let word := cs.takeWhile isIdentifier
  if isBareWord word then some (word, cs.dropWhile isIdentifier) else none

/-! ### Strings -/

/-- The character that one to six hexadecimal digits stand for. --/
def scalar? (digits : List Char) : Option Char :=
  if digits.isEmpty ∨ 6 < digits.length then none
  else
    match Hex.number? digits with
    | none => none
    | some n => if n < 0xD800 ∨ (0xDFFF < n ∧ n < 0x110000) then some (Char.ofNat n) else none

/-- What a backslash and one letter stand for. --/
def escape? (c : Char) : Option Char :=
  match c with
  | 'n' => some '\n'
  | 'r' => some '\r'
  | 't' => some '\t'
  | '\\' => some '\\'
  | '"' => some '"'
  | 'b' => some '\x08'
  | 'f' => some '\x0c'
  | 's' => some ' '
  | _ => none

/-- What follows a backslash in a string: a letter, a code point in braces, or blanks that are dropped together
    with line ends. --/
def readEscape (cs : List Char) : Option (List Char × List Char) :=
  match cs with
  | 'u' :: '\x7b' :: rest =>
    match scalar? (rest.takeWhile (· != '\x7d')), rest.dropWhile (· != '\x7d') with
    | some c, _ :: rest => some ([c], rest)
    | _, _ => none
  | c :: rest =>
    match escape? c with
    | some c => some ([c], rest)
    | none =>
      if isSpace c ∨ isNewline c then some ([], rest.dropWhile fun c => isSpace c || isNewline c) else none
  | [] => none

theorem length_readEscape_lt {cs got rest : List Char} (h : readEscape cs = some (got, rest)) :
    rest.length < cs.length := by
  unfold readEscape at h
  split at h
  · next tail =>
    split at h
    · next c d more _ hd =>
      cases h
      have hle := (List.dropWhile_suffix (l := tail) (· != '\x7d')).length_le
      rw [hd] at hle
      simp only [List.length_cons] at hle ⊢
      omega
    · cases h
  · next c tail _ =>
    split at h
    · cases h
      simp
    · split at h
      · cases h
        exact Nat.lt_succ_of_le (List.dropWhile_suffix _).length_le
      · cases h
  · cases h

/-- The body of a string on one line up to the quote that closes it; `acc` holds what was read, backwards. --/
def readQuoted (acc : List Char) (cs : List Char) : Option (List Char × List Char) :=
  match cs with
  | [] => none
  | '"' :: rest => some (acc.reverse, rest)
  | '\\' :: rest =>
    match _ : readEscape rest with
    | some (got, after) => readQuoted (got.reverse ++ acc) after
    | none => none
  | c :: rest => if isNewline c ∨ isDisallowed c then none else readQuoted (c :: acc) rest
termination_by cs.length
decreasing_by
  · have := length_readEscape_lt ‹_›
    simp only [List.length_cons]
    omega
  · simp

/-- Whether a character may be dropped behind a backslash. --/
def isBlank (c : Char) : Bool := isSpace c || isNewline c

/-- The lines of a string over several lines up to its three closing quotes, and what stands before those on
    their line. Blanks behind a backslash are dropped here, all other escapes are left for later. A raw string
    has no escapes, and as many number signs as opened it close it. --/
def splitLines (raw : Option Nat) (line : List Char) (lines : List (List Char)) (cs : List Char) :
    Option (List (List Char) × List Char × List Char) :=
  match cs with
  | [] => none
  | '"' :: '"' :: '"' :: rest =>
    let hashes := raw.getD 0
    if hashes ≤ (rest.takeWhile (· == '#')).length then some (lines.reverse, line.reverse, rest.drop hashes)
    else splitLines raw ('"' :: line) lines ('"' :: '"' :: rest)
  | '\\' :: rest =>
    if raw.isSome then splitLines raw ('\\' :: line) lines rest
    else
      match rest with
      | [] => none
      | c :: rest =>
        if isBlank c then splitLines raw line lines (rest.dropWhile isBlank)
        else splitLines raw (c :: '\\' :: line) lines rest
  | '\r' :: '\n' :: rest => splitLines raw [] (line.reverse :: lines) rest
  | c :: rest =>
    if isDisallowed c then none
    else if isNewline c then splitLines raw [] (line.reverse :: lines) rest
    else splitLines raw (c :: line) lines rest
termination_by cs.length
decreasing_by
  all_goals simp only [List.length_cons]
  all_goals try omega
  have := (List.dropWhile_suffix (l := rest) isBlank).length_le
  omega

def unescape (cs : List Char) : Option (List Char) :=
  match cs with
  | [] => some []
  | '\\' :: rest =>
    match _ : readEscape rest with
    | some (got, after) => (unescape after).map (got ++ ·)
    | none => none
  | c :: rest => (unescape rest).map (c :: ·)
termination_by cs.length
decreasing_by
  · have := length_readEscape_lt ‹_›
    simp only [List.length_cons]
    omega
  · simp

/-- A line without the indent that all lines share; a line of spaces is empty. --/
def dedent (indent line : List Char) : Option (List Char) :=
  if line.all isSpace then some []
  else if indent.isPrefixOf line then some (line.drop indent.length)
  else none

/-- The text of lines that share an indent, with a line feed between any two. --/
def joinLines (indent : List Char) (lines : List (List Char)) : Option (List Char) :=
  if indent.all isSpace then (lines.mapM (dedent indent)).map (List.intercalate ['\n'])
  else none

/-- A string over several lines, after its opening quotes. --/
def readLines (raw : Option Nat) (cs : List Char) : Option (List Char × List Char) := do
  let cs ← newline? cs
  let (lines, indent, rest) ← splitLines raw [] [] cs
  let text ← joinLines indent lines
  let text ← if raw.isSome then some text else unescape text
  some (text, rest)

/-- A raw string on one line up to its quote and number signs; `acc` holds what was read, backwards. --/
def readRaw (hashes : Nat) (acc : List Char) : List Char → Option (List Char × List Char)
  | [] => none
  | '"' :: rest =>
    if hashes ≤ (rest.takeWhile (· == '#')).length then some (acc.reverse, rest.drop hashes)
    else readRaw hashes ('"' :: acc) rest
  | c :: rest => if isNewline c ∨ isDisallowed c then none else readRaw hashes (c :: acc) rest

def readString (cs : List Char) : Option (List Char × List Char) :=
  match cs with
  | '"' :: '"' :: '"' :: rest => readLines none rest
  | '"' :: rest => readQuoted [] rest
  | '#' :: rest =>
    let hashes := (rest.takeWhile (· == '#')).length + 1
    match rest.dropWhile (· == '#') with
    | '"' :: '"' :: '"' :: rest => readLines (some hashes) rest
    | '"' :: rest => readRaw hashes [] rest
    | _ => none
  | _ => readIdentifier cs

/-! ### Numbers and keywords -/

/-- Digits of a base, with underscores after the first. --/
def skipDigits (isDigit : Char → Bool) (cs : List Char) : Option (List Char) :=
  match cs with
  | c :: rest => if isDigit c then some (rest.dropWhile fun c => isDigit c || c == '_') else none
  | [] => none

def skipSign (cs : List Char) : List Char :=
  match cs with
  | c :: rest => if isSign c then rest else cs
  | [] => []

def skipExponent (cs : List Char) : List Char :=
  match cs with
  | c :: rest => if c = 'e' ∨ c = 'E' then (skipDigits Char.isDigit (skipSign rest)).getD cs else cs
  | [] => []

def skipDecimal (cs : List Char) : Option (List Char) := do
  let rest ← skipDigits Char.isDigit cs
  match rest with
  | '.' :: more => some (skipExponent ((skipDigits Char.isDigit more).getD rest))
  | _ => some (skipExponent rest)

def skipNumber (cs : List Char) : Option (List Char) :=
  match skipSign cs with
  | '0' :: 'x' :: rest => skipDigits (fun c => (Hex.value? c).isSome) rest
  | '0' :: 'o' :: rest => skipDigits (fun c => '0' ≤ c && c ≤ '7') rest
  | '0' :: 'b' :: rest => skipDigits (fun c => c == '0' || c == '1') rest
  | rest => skipDecimal rest

/-- The number that digits write in a base; underscores among them do not count. --/
def ofDigits (base : Nat) (cs : List Char) : Nat :=
  (cs.filter (· != '_')).foldl (fun n c => base * n + (Hex.value? c).getD 0) 0

/-- An integer without its sign. A number with a point or an exponent is none. --/
def magnitude? (literal : List Char) : Option Nat :=
  match skipSign literal with
  | '0' :: 'x' :: rest => some (ofDigits 16 rest)
  | '0' :: 'o' :: rest => some (ofDigits 8 rest)
  | '0' :: 'b' :: rest => some (ofDigits 2 rest)
  | rest => if rest.all fun c => c.isDigit || c == '_' then some (ofDigits 10 rest) else none

/-- Integers are held in 128 bits, of which one is for the sign; the sign is put to a number that is held already. --/
def integerBound : Nat := Nat.pow 2 127

/-- Whether characters make a number that can be held. --/
def isNumber (literal : List Char) : Bool :=
  skipNumber literal == some [] && (magnitude? literal).all (· < integerBound)

end Kdl
end AnsibleStaging
