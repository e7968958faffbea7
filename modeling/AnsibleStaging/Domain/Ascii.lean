import AnsibleStaging.Domain.Direction
import AnsibleStaging.Domain.Joining
import AnsibleStaging.Domain.Mapping
import AnsibleStaging.Domain.Punycode
import AnsibleStaging.Text.RunLengths

/-! The ASCII form of a domain name, in which it is looked up. A label that holds other characters is spelled with
    ASCII ones behind a mark; a label that comes with the mark must be the spelling of one that needs it. -/

namespace AnsibleStaging
namespace Domain

def marks : CodePointClass := .ofRunLengths
  ["lc 1s 2 1 3 9 1 w 7n 7 7b 19 1 1 1 2 1 2 1 1 20 b 1c l g 1 2t 7 2 6 2 2 1 4 z 1 u r 2j b 1m 9 9 1 o 4 1 9 1",
   "3 1 5 17 3 1n 9 16 o 1 x 1i 3 1 i 1 7 a 2 t 3 1k 1 1 7 2 2 2 3 9 1 a 2 q 1 2 3 1k 1 1 5 4 2 2 3 3 1 u 2 3 1",
   "b 3 1k 1 1 8 1 3 1 3 k 2 m 6 1 3 1k 1 1 7 2 2 2 3 7 3 a 2 u 1 1n 5 3 3 1 4 9 1 14 5 1j 1 1 7 1 3 1 4 7 2 b",
   "2 t 3 1k 1 1 7 1 3 1 4 7 2 b 2 f 1 c 4 1j 2 1 7 1 3 1 4 9 1 a 2 t 3 1y 1 4 6 1 1 1 8 i 2 1p 1 2 7 c 8 2q 1",
   "2 9 b 7 21 2 r 1 1 1 1 1 4 2 1d 2 1 1 5 7 1 3 1 2 5 6 1 4 1 4 1 4 1 4 1 4 1 c 1 3 9 1 2s k n 4 4 3 1 3 2 7",
   "3 4 d c 1 1 a 4 jj 3 qa 4 s 3 t 2 u 2 1u u 9 1 4n 2 y 1 3a c 4 c 63 5 1l a 1 t 2 1 1c 1a 2 c k 5 1b h 12 9",
   "c 3 u d 1k e 1c k 48 3 1 l 4 1 6 1 2 3 5i 1s k0 x 2da 3 3x 1 2o w fe 6 2x 2 n9w 4 1 a w 2 28 2 7k 1 3 1 4 1",
   "n 5 4 1 2b 2 1e i q i d 1 12 8 p d 18 4 1b e 10 1 1v e c 1 8 2 19 3 1e 1 1 3 2 2 5 2 1 1 15 5 5 2 6k 8 1 2",
   "fn4 1 ld g r1 1 6a 1 45 5 1ae 3 1 2 5 4 14 3 4 1 4l 2 fx 4 1t 5 8t 2 25 6 1y b 1d 4 3e 3 1h f 15 1 2 2 a 4",
   "19 b 7 1 1p 3 10 e g 2 18 1 c 3 1c e 8 4 1 2 2k c 6 1 2 1 4d c l 4 1j 2 1 7 2 2 2 3 9 1 a 2 2 7 3 5 1v 9 1",
   "1 2 1 1 4 1 5 1 1 e 2 2a i n 1 29 k 6j 7 2 9 r 2 2a h 2y d 2t f 74 f 6t 6 1 2 2 4 1 1 1 2 3x 7 2 7 3 1 s a",
   "14 7 1 4 8 1 9 b 1a g 5i 8 5j 8 1 8 2a m 1 e 3e 6 3 1 1 2 1 7 1 1 1u 5 1 2 1 5 9n 4 9 2 1 1 1c 7 3 5 n 1",
   "44l 1 6 f 8ug i 1xc 5 1n 7 t4 1 1 1j 7 4 29 1 b 2 f57 2 3mp 1a 2 n f2 5 3 6 8 8 2 7 u 4 44 3 1iz 1j 4 1e 8",
   "1 e 1 m 5 1 f 11s 7 1 h 2 7 1 2 1 5 2s 1 4g 7 af 1 1p 4 e4 4 72 2 6r 1 2 1 7 2 5 1 d6 7 31 7"]

def isForbidden (c : Char) : Bool :=
  c.toNat ≤ 0x20 || c.toNat == 0x7F ||
    ['%', '#', '/', ':', '<', '>', '?', '@', '[', '\\', ']', '^', '|'].contains c

def isAscii (c : Char) : Bool := c.toNat < 0x80

/-- What stands at the front of a label that is an ASCII spelling. --/
def spelledMark : List Char := ['x', 'n', '-', '-']

/-- The characters of a name, mapped and composed. --/
def settled? (cs : List Char) : Option (List Char) := (cs.mapM mapped?).map fun css => composed css.flatten

def labels : List Char → List (List Char)
  | [] => [[]]
  | c :: rest =>
    if c = '.' then [] :: labels rest
    else
      match labels rest with
      | [] => [[c]]
      | l :: more => (c :: l) :: more

/-- A label as it reads, and in ASCII. --/
structure Label where
  shown : List Char
  ascii : List Char

/-- Whether a label that is not all ASCII is one that a name may hold. --/
def isFit (label : List Char) : Bool := !(label.head?.any marks.contains) && joinersFit [] label

def label? (cs : List Char) : Option Label :=
  if spelledMark.isPrefixOf cs then do
    guard (cs.all isAscii)
    let shown ← Punycode.decode? (cs.drop spelledMark.length)
    guard (!shown.all isAscii && !shown.contains '.' && settled? shown == some shown && isFit shown)
    return ⟨shown, cs⟩
  else if cs.all isAscii then some ⟨cs, cs⟩
  else if isFit cs then some ⟨cs, spelledMark ++ Punycode.encode cs⟩
  else none

def ascii? (name : String) : Option String := do
  let cs ← settled? name.toList
  let found ← (labels cs).mapM label?
  let shown := found.map (·.shown)
  guard (!(shown.any fun l => l.any isForbidden))
  guard (!(shown.any fun l => l.any turns) || shown.all keepsDirection)
  return String.intercalate "." (found.map fun l => String.ofList l.ascii)

end Domain
end AnsibleStaging
