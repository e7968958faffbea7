/-! The ASCII spelling of a label that holds other characters. The ASCII characters stand first; after a hyphen come
    the others, each as its distance from the one before in the order of code points and places, in digits of a
    base that adapts to the distances so far. -/

namespace AnsibleStaging
namespace Domain
namespace Punycode

/-- The digits: the letters, then the decimal digits. --/
def digit (n : Nat) : Char := if n < 26 then Char.ofNat (97 + n) else Char.ofNat (22 + n)

def value? (c : Char) : Option Nat :=
  if 'a' ≤ c ∧ c ≤ 'z' then some (c.toNat - 97)
  else if 'A' ≤ c ∧ c ≤ 'Z' then some (c.toNat - 65)
  else if '0' ≤ c ∧ c ≤ '9' then some (c.toNat - 22)
  else none

/-- The least value of a digit at place `k` that says that another digit follows. --/
def threshold (bias k : Nat) : Nat := if k ≤ bias then 1 else if bias + 26 ≤ k then 26 else k - bias

theorem threshold_pos (bias k : Nat) : 0 < threshold bias k := by
  unfold threshold
  split
  · omega
  · split <;> omega

/-- Brings a distance down below the middle of the range of digits; answers how often it was divided. --/
def settle (delta count : Nat) : Nat × Nat :=
  if _ : 455 < delta then settle (delta / 35) (count + 1) else (delta, count)
termination_by delta
decreasing_by omega

/-- The bias after a distance, when `points` characters are known. --/
def adapted (delta points : Nat) (first : Bool) : Nat :=
  let delta := if first then delta / 700 else delta / 2
  let (delta, count) := settle (delta + delta / points) 0
  36 * count + 36 * delta / (delta + 38)

/-! ### Writing -/

/-- The digits of a distance, the least first, from place `k` on. --/
def digits (bias k q : Nat) : List Char :=
  let t := threshold bias k
  if _ : q < t then [digit q] else digit (t + (q - t) % (36 - t)) :: digits bias (k + 36) ((q - t) / (36 - t))
termination_by q
decreasing_by
  have := threshold_pos bias k
  exact Nat.lt_of_le_of_lt (Nat.div_le_self _ _) (by omega)

/-- The state of writing: what is written, backwards; the distance so far; the bias; how many characters are
    known. --/
structure Writing where
  back : List Char
  delta : Nat
  bias : Nat
  known : Nat

/-- Passes one place of the label while the characters with code point `m` are written. --/
def Writing.pass (basics m : Nat) (w : Writing) (c : Char) : Writing :=
  if c.toNat < m then { w with delta := w.delta + 1 }
  else if c.toNat = m then
    ⟨(digits w.bias 36 w.delta).reverse ++ w.back, 0, adapted w.delta (w.known + 1) (w.known = basics), w.known + 1⟩
  else w

/-- Writes the characters with the code points `codes`, which increase from `next` on. --/
def writeCodes (label : List Char) (basics : Nat) : List Nat → Nat → Writing → Writing
  | [], _, w => w
  | m :: rest, next, w =>
    let w := label.foldl (Writing.pass basics m) { w with delta := w.delta + (m - next) * (w.known + 1) }
    writeCodes label basics rest (m + 1) { w with delta := w.delta + 1 }

/-- Puts a number in its place unless it is there. --/
def insertCode (n : Nat) : List Nat → List Nat
  | [] => [n]
  | m :: rest => if n < m then n :: m :: rest else if n = m then m :: rest else m :: insertCode n rest

/-- The ASCII spelling of a label, without the mark at its front. --/
def encode (label : List Char) : List Char :=
  let basics := label.filter fun c => c.toNat < 128
  let codes := (label.filter fun c => 128 ≤ c.toNat).foldr (fun c l => insertCode c.toNat l) []
  let w := writeCodes label basics.length codes 128 ⟨[], 0, 72, basics.length⟩
  basics ++ (if basics.isEmpty then [] else ['-']) ++ w.back.reverse

/-! ### Reading -/

/-- Reads the digits of one distance into `i`; answers the new `i` and what is left. --/
def readDistance (bias : Nat) : List Char → Nat → Nat → Nat → Option (Nat × List Char)
  | [], _, _, _ => none
  | c :: rest, k, weight, i => do
    let d ← value? c
    let t := threshold bias k
    if d < t then some (i + d * weight, rest) else readDistance bias rest (k + 36) (weight * (36 - t)) (i + d * weight)

theorem length_readDistance_lt {bias k weight i : Nat} {cs : List Char} {r : Nat × List Char}
    (h : readDistance bias cs k weight i = some r) : r.2.length < cs.length := by
  induction cs generalizing k weight i with
  | nil => cases h
  | cons c rest ih =>
    unfold readDistance at h
    cases hv : value? c with
    | none =>
      rw [hv] at h
      cases h
    | some d =>
      rw [hv] at h
      dsimp only [bind, Option.bind] at h
      split at h
      · cases h
        exact Nat.lt_succ_self _
      · exact Nat.lt_succ_of_lt (ih h)

/-- Reads distances to the end, and puts each character in its place. --/
def readCodes (cs known : List Char) (n i bias : Nat) : Option (List Char) :=
  if cs = [] then some known
  else
    match _ : readDistance bias cs 36 1 i with
    | none => none
    | some (j, rest) =>
      let points := known.length + 1
      let n := n + j / points
      if 0x10FFFF < n ∨ (0xD800 ≤ n ∧ n < 0xE000) then none
      else
        let place := j % points
        readCodes rest (known.take place ++ Char.ofNat n :: known.drop place) n (place + 1) (adapted (j - i) points (i = 0))
termination_by cs.length
decreasing_by exact length_readDistance_lt ‹_›

/-- The label that an ASCII spelling without the mark at its front stands for. --/
def decode? (cs : List Char) : Option (List Char) :=
  let back := cs.reverse
  let after := (back.takeWhile (· != '-')).reverse
  let before := ((back.dropWhile (· != '-')).drop 1).reverse
  if before = [] then readCodes cs [] 128 0 72 else readCodes after before 128 0 72

end Punycode
end Domain
end AnsibleStaging
