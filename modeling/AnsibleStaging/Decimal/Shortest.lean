import AnsibleStaging.Decimal.Double

/-! The shortest decimal text that reads back. The reals that round to a number form an interval around it,
    whose ends belong to it iff the significand is even. Of the decimals of one, two, … seventeen digits the
    first length with a member of the interval wins, and of two members the nearer one. -/

namespace AnsibleStaging
namespace Double

/-- A decimal: `digits · 10 ^ exponent`. --/
structure Decimal where
  digits : Nat
  exponent : Int
deriving DecidableEq

/-- Half the way down to the number below and half the way up to the number above, with the number itself,
    all over one denominator. --/
structure Interval where
  low : Nat
  middle : Nat
  high : Nat
  den : Nat
  closed : Bool

/-- The interval of a positive number. Below the least significand the spacing is half as wide. --/
def interval (d : Double) : Interval :=
  let m := d.significand
  let narrow := d.fraction = 0 ∧ 1 < d.biased
  let low := if narrow then 4 * m - 1 else 4 * m - 2
  let e := d.exponent - 2
  if 0 ≤ e then
    let s := Nat.pow 2 e.toNat
    ⟨low * s, 4 * m * s, (4 * m + 2) * s, 1, m % 2 = 0⟩
  else ⟨low, 4 * m, 4 * m + 2, Nat.pow 2 (-e).toNat, m % 2 = 0⟩

/-- Whether `num / den` lies in the interval. --/
def Interval.contains (i : Interval) (num den : Nat) : Bool :=
  if i.closed then decide (i.low * den ≤ num * i.den) && decide (num * i.den ≤ i.high * den)
  else decide (i.low * den < num * i.den) && decide (num * i.den < i.high * den)

/-- The value of a decimal as a quotient. --/
def Decimal.quotient (x : Decimal) : Nat × Nat :=
  if 0 ≤ x.exponent then (x.digits * Nat.pow 10 x.exponent.toNat, 1) else (x.digits, Nat.pow 10 (-x.exponent).toNat)

/-- The decimals next to the middle on the grid of step `10 ^ exponent`, the nearer one first. --/
def Interval.neighbours (i : Interval) (exponent : Int) : List Decimal :=
  let (num, den) :=
    if 0 ≤ exponent then (i.middle, i.den * Nat.pow 10 exponent.toNat) else (i.middle * Nat.pow 10 (-exponent).toNat, i.den)
  let below : Decimal := ⟨num / den, exponent⟩
  let above : Decimal := ⟨num / den + 1, exponent⟩
  let r := num % den
  if 2 * r < den ∨ (2 * r = den ∧ below.digits % 2 = 0) then [below, above] else [above, below]

/-- The first neighbour in the interval, over ever finer grids; at most `fuel` of them. --/
def Interval.search (i : Interval) : Nat → Int → Option Decimal
  | 0, _ => none
  | fuel + 1, exponent =>
    match (i.neighbours exponent).find? fun x =>
      x.digits != 0 && i.contains x.quotient.1 x.quotient.2 with
    | some x => some x
    | none => i.search fuel (exponent - 1)

/-- The exponent of the leading decimal digit of `num / den`, or one more. --/
def leading (num den : Nat) : Int :=
  ((Nat.toDigits 10 num).length : Int) - ((Nat.toDigits 10 den).length : Int) + 1

/-- Drops trailing zeros of the digits, at most `fuel` of them. --/
def Decimal.trim : Nat → Decimal → Decimal
  | 0, x => x
  | fuel + 1, x => if x.digits != 0 && x.digits % 10 == 0 then trim fuel ⟨x.digits / 10, x.exponent + 1⟩ else x

/-- The shortest decimal that reads back as the positive number `d`. --/
def shortest (d : Double) : Decimal :=
  let i := d.interval
  ((i.search 40 (leading i.middle i.den)).getD ⟨0, 0⟩).trim 40

/-- The layout of a number in text: which powers of ten of the leading digit are written in place. --/
structure Layout where
  leastPlain : Int
  greatestPlain : Int

def zeros (n : Nat) : List Char := List.replicate n '0'

/-- The magnitude of a decimal in text. In place it always shows a digit after the point; with an exponent it
    shows a point only between digits, and a sign in front of the exponent either way. --/
def Layout.write (l : Layout) (x : Decimal) : List Char :=
  let ds := Nat.toDigits 10 x.digits
  let lead := x.exponent + (ds.length : Int) - 1
  if l.leastPlain ≤ lead ∧ lead ≤ l.greatestPlain then
    if 0 ≤ x.exponent then ds ++ zeros x.exponent.toNat ++ ['.', '0']
    else if 0 ≤ lead then ds.take (lead.toNat + 1) ++ '.' :: ds.drop (lead.toNat + 1)
    else '0' :: '.' :: (zeros ((-lead).toNat - 1) ++ ds)
  else
    let mantissa := match ds with
      | [] => []
      | [a] => [a]
      | a :: rest => a :: '.' :: rest
    let exponent := if lead < 0 then '-' :: Nat.toDigits 10 (-lead).toNat else '+' :: Nat.toDigits 10 lead.toNat
    mantissa ++ 'e' :: exponent

/-- The text of a number: its shortest decimal behind its sign, and a zero as one digit on either side of
    the point. --/
def Layout.text (l : Layout) (d : Double) : List Char :=
  let body := if d.significand = 0 then ['0', '.', '0'] else l.write d.shortest
  if d.isNegative then '-' :: body else body

end Double
end AnsibleStaging
