/-! Hexadecimal digits, read in either case and written in small letters or in capitals. -/

namespace AnsibleStaging
namespace Hex

/-- The digit of a value below 16. --/
def digit (n : Nat) : Char := if n < 10 then Char.ofNat (48 + n) else Char.ofNat (87 + n)

/-- The digit of a value below 16, as a capital. --/
def capital (n : Nat) : Char := if n < 10 then Char.ofNat (48 + n) else Char.ofNat (55 + n)

def value? (c : Char) : Option Nat :=
  if '0' ≤ c ∧ c ≤ '9' then some (c.toNat - 48)
  else if 'a' ≤ c ∧ c ≤ 'f' then some (c.toNat - 87)
  else if 'A' ≤ c ∧ c ≤ 'F' then some (c.toNat - 55)
  else none

def number? (cs : List Char) : Option Nat :=
  cs.foldl (fun n c => do some ((← n) * 16 + (← value? c))) (some 0)

theorem value?_digit {n : Nat} (h : n < 16) : value? (digit n) = some n := by
  have all : ∀ m ∈ List.range 16, value? (digit m) = some m := by decide
  exact all n (List.mem_range.mpr h)

theorem value?_capital {n : Nat} (h : n < 16) : value? (capital n) = some n := by
  have all : ∀ m ∈ List.range 16, value? (capital m) = some m := by decide
  exact all n (List.mem_range.mpr h)

end Hex
end AnsibleStaging
