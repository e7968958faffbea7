import AnsibleStaging.Text.CodePointMap

/-! A class of code points given by the lengths of its runs: first a run outside the class, then a run
    inside it, and so on in turn. The lengths are written in base 36 with blanks between them, so that a
    table of a Unicode property stays short. -/

namespace AnsibleStaging

/-- A class of code points as the ranges that make it up. --/
structure CodePointClass where
  ranges : CodePointMap Unit

namespace CodePointClass

/-- Where the reading of a table stands: the next code point, whether it lies in the class, the length
    read so far and the ranges found. --/
structure Reading where
  next : Nat
  inside : Bool
  length : Nat
  ranges : Array (CodePointRange Unit)

def Reading.close (r : Reading) : Reading where
  next := r.next + r.length
  inside := !r.inside
  length := 0
  ranges := if r.inside && r.length != 0 then r.ranges.push ⟨r.next, r.next + r.length, ()⟩ else r.ranges

/-- Reads one character of a table: a blank ends a run, a digit makes its length longer. --/
def Reading.step (r : Reading) (c : Char) : Reading :=
  if c = ' ' then r.close else { r with length := r.length * 36 + Table.digitValue c }

/-- The class that the lines of a table of run lengths describe. --/
def ofRunLengths (table : List String) : CodePointClass :=
  ⟨⟨((String.intercalate " " table).foldl Reading.step ⟨0, false, 0, #[]⟩).close.ranges⟩⟩

def contains (s : CodePointClass) (c : Char) : Bool := (s.ranges.range? c).isSome

end CodePointClass
end AnsibleStaging
