/-! Finite binary numbers of 64 bits, by exact arithmetic on naturals. A number is `significand · 2 ^ exponent`
    with a sign; `nearest` rounds a quotient of naturals to the closest such number, a tie to the even one. -/

namespace AnsibleStaging

/-- The bits of a finite number: a sign, eleven bits of exponent that are not all set, and fifty-two of
    fraction. --/
structure Double where
  bits : UInt64
  finite : bits.toNat / Nat.pow 2 52 % 2048 ≠ 2047
deriving DecidableEq

namespace Double

def isNegative (d : Double) : Bool := Nat.pow 2 63 ≤ d.bits.toNat

def biased (d : Double) : Nat := d.bits.toNat / Nat.pow 2 52 % 2048

def fraction (d : Double) : Nat := d.bits.toNat % Nat.pow 2 52

def significand (d : Double) : Nat := if d.biased = 0 then d.fraction else d.fraction + Nat.pow 2 52

/-- The power of two that scales the significand. --/
def exponent (d : Double) : Int := if d.biased = 0 then -1074 else (d.biased : Int) - 1075

def zero (negative : Bool) : Double where
  bits := if negative then 0x8000000000000000 else 0
  finite := by cases negative <;> decide

/-- The quotient to the nearest whole, a tie to the even one. --/
def divideNearest (num den : Nat) : Nat :=
  let q := num / den
  let r := num % den
  if 2 * r < den then q else if den < 2 * r then q + 1 else q + q % 2

/-- `num / den` in units of `2 ^ q`. --/
def scaled (num den : Nat) (q : Int) : Nat × Nat :=
  if 0 ≤ q then (num, den * Nat.pow 2 q.toNat) else (num * Nat.pow 2 (-q).toNat, den)

/-- The least exponent at which `num / den` has at most fifty-three bits, but not below the least there is. --/
def unit (num den : Nat) : Int :=
  let q := max ((Nat.log2 num : Int) - (Nat.log2 den : Int) - 53) (-1074)
  let (n, d) := scaled num den q
  if Nat.pow 2 53 ≤ n / d then q + 1 else q

/-- The bits of the number nearest to `num / den`, without a sign; a carry out of the significand moves the
    exponent on. --/
def nearestBits (num den : Nat) : Nat :=
  if num = 0 then 0
  else
    let q := unit num den
    let (n, d) := scaled num den q
    divideNearest n d + (q + 1074).toNat * Nat.pow 2 52

/-- The number of these bits, unless it is too large to be finite. --/
def ofBits? (negative : Bool) (bits : Nat) : Option Double :=
  if bits < 2047 * Nat.pow 2 52 then
    let all := (if negative then bits + Nat.pow 2 63 else bits).toUInt64
    if h : all.toNat / Nat.pow 2 52 % 2048 ≠ 2047 then some ⟨all, h⟩ else none
  else none

/-- The number nearest to `num / den`, unless it is too large to be finite. --/
def nearest (negative : Bool) (num den : Nat) : Option Double := ofBits? negative (nearestBits num den)

def magnitude (d : Double) : Nat × Nat :=
  if 0 ≤ d.exponent then (d.significand * Nat.pow 2 d.exponent.toNat, 1)
  else (d.significand, Nat.pow 2 (-d.exponent).toNat)

/-- The magnitude times `10 ^ n`, in one rounding. Powers past the twenty-second are rounded first. --/
def timesPowerOfTen (d : Double) (n : Nat) : Option Double := do
  let power ← nearest false (Nat.pow 10 n) 1
  let (a, b) := d.magnitude
  let (p, q) := power.magnitude
  nearest false (a * p) (b * q)

/-- The magnitude divided by `10 ^ n`, in one rounding. --/
def overPowerOfTen (d : Double) (n : Nat) : Option Double := do
  let power ← nearest false (Nat.pow 10 n) 1
  let (a, b) := d.magnitude
  let (p, q) := power.magnitude
  nearest false (a * q) (b * p)

def withSign (d : Double) (negative : Bool) : Option Double := ofBits? negative (d.bits.toNat % Nat.pow 2 63)

/-- The greatest power of ten that a number reaches. --/
def greatestPower : Nat := 308

/-- `digits · 10 ^ -n`: divided by the greatest power as long as that is too little, unless nothing is left. --/
def divideDown (d : Double) (n : Nat) : Option Double :=
  if d.significand = 0 then some d
  else if n ≤ greatestPower then d.overPowerOfTen n
  else do
    let d ← d.overPowerOfTen greatestPower
    divideDown d (n - greatestPower)
termination_by n
decreasing_by simp only [greatestPower] at *; omega

/-- The number that whole digits and a power of ten stand for: the digits are rounded first, then scaled.
    None when it is too large to be finite. --/
def ofDecimal? (negative : Bool) (digits : Nat) (exponent : Int) : Option Double := do
  let d ← nearest false digits 1
  let scaled ←
    if 0 ≤ exponent then
      if exponent.toNat ≤ greatestPower then d.timesPowerOfTen exponent.toNat
      else if digits = 0 then some d
      else none
    else divideDown d (-exponent).toNat
  scaled.withSign negative

end Double
end AnsibleStaging
