/-! Which words are like another word. Two words are alike by the letters that they share at about the same places,
    as a part of either word, and by how many of these letters come in the same order. The measure is a fraction,
    so that it is compared exactly; equal words have the measure 1 and words that share no letter have 0. -/

namespace AnsibleStaging
namespace Similar

/-- A letter and its place in a word. --/
abbrev Placed := Char × Nat

def near (reach i j : Nat) : Bool := i ≤ j + reach && j ≤ i + reach

/-- The letters of the second word that those of the first take, each the first near one that equals it and that no
    letter before has taken. --/
def shared (reach : Nat) : List Placed → List Placed → List Placed
  | [], _ => []
  | (c, i) :: rest, free =>
    match free.find? fun d => d.1 == c && near reach i d.2 with
    | some d => d :: shared reach rest (free.erase d)
    | none => shared reach rest free

/-- How many letters of a list do not stand where they would in the order of their places. --/
def displaced (taken : List Placed) : Nat :=
  (taken.zip (taken.mergeSort fun a b => decide (a.2 ≤ b.2))).countP fun p => p.1.1 != p.2.1

structure Fraction where
  part : Nat
  whole : Nat

/-- How alike two words are: the mean of the shared part of the first word, of the second, and of the part of the
    shared letters that comes in order. --/
def likeness (first second : String) : Fraction :=
  let m := first.length
  let n := second.length
  let taken := shared (max m n / 2 - 1) first.toList.zipIdx second.toList.zipIdx
  let k := taken.length
  if m = 0 ∧ n = 0 then ⟨1, 1⟩
  else if k = 0 then ⟨0, 1⟩
  else ⟨k * n * k + k * m * k + (k - displaced taken / 2) * m * n, 3 * m * n * k⟩

/-- Words are alike from seven tenths on. --/
def Fraction.isMuch (f : Fraction) : Bool := 7 * f.whole ≤ 10 * f.part

def Fraction.atMost (f g : Fraction) : Bool := f.part * g.whole ≤ g.part * f.whole

/-- The words that are like `word`, the most similar last. --/
def among (words : List String) (word : String) : List String :=
  (((words.map fun w => (likeness word w, w)).filter fun p => p.1.isMuch).mergeSort fun p q => p.1.atMost q.1).map (·.2)

end Similar
end AnsibleStaging
