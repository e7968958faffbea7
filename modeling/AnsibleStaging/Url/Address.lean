import AnsibleStaging.Text.Hex

/-! Addresses of hosts: four bytes written with points, or eight pieces of 16 bits written in hexadecimal with
    colons. Each has many spellings and one canonical text. -/

namespace AnsibleStaging
namespace Url

/-! ### Four bytes -/

structure Ipv4 where
  value : Nat
deriving DecidableEq

namespace Ipv4

def text (a : Ipv4) : String :=
  String.intercalate "." ([24, 16, 8, 0].map fun shift => toString (a.value / Nat.pow 2 shift % 256))

/-- The number that `digits` write in `base`; none if one of them is no digit there. --/
def number? (base : Nat) (digits : List Char) : Option Nat :=
  digits.foldl (fun n c => do
    let v ← Hex.value? c
    if v < base then some ((← n) * base + v) else none) (some 0)

/-- The number that one part of an address writes: hexadecimal after `0x`, octal after `0`. --/
def part? (cs : List Char) : Option Nat :=
  match cs with
  | [] => none
  | '0' :: 'x' :: rest => number? 16 rest
  | '0' :: 'X' :: rest => number? 16 rest
  | '0' :: c :: rest => number? 8 (c :: rest)
  | cs => number? 10 cs

/-- The parts of a name, but for an empty one at the end. --/
def parts (name : String) : List (List Char) :=
  match (name.toList.splitOn '.').reverse with
  | [] :: rest => rest.reverse
  | all => all.reverse

/-- Whether a name is meant as an address: its last part is a number. --/
def isMeant (name : String) : Bool :=
  match (parts name).getLast? with
  | none => false
  | some last => (last ≠ [] && last.all Char.isDigit) || (part? last).isSome

/-- The value of the parts, of which the last fills the bytes that are left. --/
def value? (numbers : List Nat) : Option Nat :=
  match numbers.reverse with
  | [] => none
  | last :: front =>
    if 3 < front.length ∨ front.any (255 < ·) ∨ Nat.pow 256 (4 - front.length) ≤ last then none
    else some (numbers.dropLast.zipIdx.foldl (fun v (n, i) => v + n * Nat.pow 256 (3 - i)) last)

def read? (name : String) : Option Ipv4 := do
  let numbers ← (parts name).mapM part?
  return ⟨← value? numbers⟩

end Ipv4

/-! ### Eight pieces -/

structure Ipv6 where
  pieces : List Nat
deriving DecidableEq

namespace Ipv6

def zeros (pieces : List Nat) : Nat := (pieces.takeWhile (· == 0)).length

/-- The start and the length of the longest run of zeros, the first of several. --/
def longestZeros (pieces : List Nat) : Nat × Nat :=
  (List.range pieces.length).foldl (fun best i =>
    if best.2 < zeros (pieces.drop i) then (i, zeros (pieces.drop i)) else best) (0, 0)

def joined (pieces : List Nat) : String :=
  String.intercalate ":" (pieces.map fun n => String.ofList (Nat.toDigits 16 n))

/-- The text of an address, in which two colons stand for the longest run of two or more zeros. --/
def text (a : Ipv6) : String :=
  let (start, length) := longestZeros a.pieces
  if length < 2 then joined a.pieces
  else joined (a.pieces.take start) ++ "::" ++ joined (a.pieces.drop (start + length))

/-- The piece that one to four digits write. --/
def piece? (cs : List Char) : Option Nat := if cs = [] ∨ 4 < cs.length then none else Hex.number? cs

/-- A byte in decimal, without a zero before other digits. --/
def byte? (cs : List Char) : Option Nat :=
  match cs with
  | [] => none
  | '0' :: _ :: _ => none
  | cs => (Ipv4.number? 10 cs).filter (· < 256)

/-- The two pieces that four bytes with points write. --/
def dotted? (cs : List Char) : Option (List Nat) :=
  match (cs.splitOn '.').mapM byte? with
  | some [a, b, c, d] => some [a * 256 + b, c * 256 + d]
  | _ => none

/-- The pieces that groups between colons write; the last may be four bytes with points. --/
def groups? : List (List Char) → Option (List Nat)
  | [] => some []
  | [cs] => if cs.contains '.' then dotted? cs else (piece? cs).map fun n => [n]
  | cs :: rest => do return (← piece? cs) :: (← groups? rest)

/-- The pieces on one side of two colons. --/
def side? (cs : List Char) : Option (List Nat) := if cs = [] then some [] else groups? (cs.splitOn ':')

/-- The characters before the first two colons in a row and those after them. --/
def sides? : List Char → Option (List Char × List Char)
  | ':' :: ':' :: rest => some ([], rest)
  | c :: rest => (sides? rest).map fun (front, back) => (c :: front, back)
  | [] => none

/-- The address that a text writes. Two colons stand for one zero or more. --/
def read? (s : String) : Option Ipv6 :=
  match sides? s.toList with
  | none => do
    let pieces ← groups? (s.toList.splitOn ':')
    if pieces.length = 8 then some ⟨pieces⟩ else none
  | some (front, back) => do
    if front.contains '.' ∨ (sides? back).isSome then none
    let front ← side? front
    let back ← side? back
    if 7 < front.length + back.length then none
    else some ⟨front ++ List.replicate (8 - front.length - back.length) 0 ++ back⟩

end Ipv6
end Url
end AnsibleStaging
