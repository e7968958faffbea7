/-! Maps from ranges of code points, and the tables they are made from. A table is a row of entries: numbers in
    base 36 with points between them, closed by a capital letter that says what they mean. -/

namespace AnsibleStaging
namespace Table

/-- The value of a base-36 digit; anything else counts nothing. --/
def digitValue (c : Char) : Nat :=
  if '0' ≤ c ∧ c ≤ '9' then c.toNat - '0'.toNat else if 'a' ≤ c ∧ c ≤ 'z' then c.toNat - 'a'.toNat + 10 else 0

/-- One entry: its numbers and its letter. --/
structure Entry where
  numbers : List Nat
  letter : Char

def Entry.total (e : Entry) : Nat := e.numbers.foldl (· + ·) 0

/-- Where the reading of a table stands: the number being read, those before it in the entry, latest first,
    and the entries found. --/
structure Reading where
  number : Nat
  before : List Nat
  found : Array Entry

def Reading.step (r : Reading) (c : Char) : Reading :=
  if c = '.' then { r with number := 0, before := r.number :: r.before }
  else if 'A' ≤ c ∧ c ≤ 'Z' then ⟨0, [], r.found.push ⟨(r.number :: r.before).reverse, c⟩⟩
  else { r with number := r.number * 36 + digitValue c }

/-- The entries that the lines of a table hold. --/
def entries (lines : List String) : Array Entry :=
  (lines.foldl (fun r line => String.foldl Reading.step r line) (Reading.mk 0 [] #[])).found

end Table

/-- Code points from `first` up to but not including `last`, and what they are mapped to. --/
structure CodePointRange (β : Type) where
  first : Nat
  last : Nat
  value : β

/-- A map given by ranges in increasing order. --/
structure CodePointMap (β : Type) where
  ranges : Array (CodePointRange β)

namespace CodePointMap
variable {β : Type}

/-- Searches the ranges between `low` and `high` by halves, at most `fuel` times. --/
def search (ranges : Array (CodePointRange β)) (n : Nat) : Nat → Nat → Nat → Option (CodePointRange β)
  | 0, _, _ => none
  | fuel + 1, low, high =>
    let middle := (low + high) / 2
    match ranges[middle]? with
    | none => none
    | some r =>
      if low ≥ high then none
      else if n < r.first then search ranges n fuel low middle
      else if n < r.last then some r
      else search ranges n fuel (middle + 1) high

def range? (m : CodePointMap β) (c : Char) : Option (CodePointRange β) :=
  search m.ranges c.toNat (m.ranges.size + 1) 0 m.ranges.size

def get? (m : CodePointMap β) (c : Char) : Option β := (m.range? c).map (·.value)

/-- The map that a table of runs describes. Each entry gives the length of a run and what it is mapped to. --/
def ofRuns (run : Table.Entry → Nat × Option β) (lines : List String) : CodePointMap β :=
  ⟨((Table.entries lines).foldl (fun (acc : Nat × Array (CodePointRange β)) e =>
    match run e with
    | (n, some v) => (acc.1 + n, acc.2.push ⟨acc.1, acc.1 + n, v⟩)
    | (n, none) => (acc.1 + n, acc.2)) (0, #[])).2⟩

end CodePointMap
end AnsibleStaging
