import AnsibleStaging.Json.Basic
import AnsibleStaging.Text.Hex

/-! Reading JSON text. The answer is canonical, and values nest at most 127 deep. A whole number that fits
    in 64 bits stays one; any other is a double, whose digits are taken while they fit in 64 bits. -/

namespace AnsibleStaging
namespace Json

def isSpace (c : Char) : Bool := c == ' ' || c == '\n' || c == '\t' || c == '\r'

def skipSpace (cs : List Char) : List Char := cs.dropWhile isSpace

/-! ### Numbers -/

/-- The digits of a number as far as they are taken: those dropped before the point make the exponent
    greater, those taken after it make it less. --/
structure Digits where
  taken : Nat
  exponent : Int
  full : Bool

namespace Digits

/-- Takes a digit if the result stays below `2 ^ 64`. --/
def push? (d : Digits) (c : Char) : Option Nat :=
  let n := d.taken * 10 + (c.toNat - 48)
  if n < 18446744073709551616 then some n else none

/-- A digit before the point. Once one did not fit, none does. --/
def whole (d : Digits) (c : Char) : Digits :=
  match d.full, d.push? c with
  | false, some n => { d with taken := n }
  | _, _ => { d with exponent := d.exponent + 1, full := true }

/-- A digit after the point; one that does not fit is dropped with all that follow. --/
def fractional (d : Digits) (c : Char) : Digits :=
  match d.full, d.push? c with
  | false, some n => { d with taken := n, exponent := d.exponent - 1 }
  | _, _ => { d with full := true }

end Digits

/-- The value of a run of decimal digits. --/
def digitsValue (cs : List Char) : Nat := cs.foldl (fun n c => n * 10 + (c.toNat - 48)) 0

def readDigits (cs : List Char) : Option (List Char × List Char) :=
  match cs.takeWhile Char.isDigit with
  | [] => none
  | ds => some (ds, cs.dropWhile Char.isDigit)

/-- The whole part: a lone zero, or digits that do not start with one. --/
def readWhole (cs : List Char) : Option (List Char × List Char) := do
  let (ds, rest) ← readDigits cs
  match ds with
  | '0' :: _ :: _ => none
  | _ => some (ds, rest)

/-- A point with digits after it, if there is a point. --/
def readFraction (cs : List Char) : Option (Option (List Char) × List Char) :=
  match cs with
  | '.' :: rest => do
    let (ds, rest) ← readDigits rest
    some (some ds, rest)
  | _ => some (none, cs)

/-- Digits behind a sign, if there is a sign. --/
def readSigned (cs : List Char) : Option (Option Int × List Char) :=
  match cs with
  | '-' :: rest => do
    let (ds, rest) ← readDigits rest
    some (some (-(digitsValue ds : Int)), rest)
  | '+' :: rest => do
    let (ds, rest) ← readDigits rest
    some (some (digitsValue ds : Int), rest)
  | _ => do
    let (ds, rest) ← readDigits cs
    some (some (digitsValue ds : Int), rest)

def readExponent (cs : List Char) : Option (Option Int × List Char) :=
  match cs with
  | 'e' :: rest => readSigned rest
  | 'E' :: rest => readSigned rest
  | _ => some (none, cs)

/-- The number that a sign, a whole part, a fraction and an exponent stand for. A whole number too large for
    64 bits is a double, and so is zero with a sign. --/
def makeNumber (negative : Bool) (whole : List Char) (fraction : Option (List Char)) (exponent : Option Int) :
    Option Number :=
  let w := whole.foldl Digits.whole ⟨0, 0, false⟩
  match fraction, exponent, w.full with
  | none, none, false =>
    let n : Int := if negative then -(w.taken : Int) else w.taken
    if negative && w.taken == 0 then some (.double (Double.zero true))
    else if h : -9223372036854775808 ≤ n ∧ n < 18446744073709551616 then some (.int n h)
    else (Double.ofDecimal? negative w.taken 0).map .double
  | _, _, _ =>
    let d := (fraction.getD []).foldl Digits.fractional ⟨w.taken, w.exponent, false⟩
    (Double.ofDecimal? negative d.taken (d.exponent + exponent.getD 0)).map .double

def readUnsigned (negative : Bool) (cs : List Char) : Option (Number × List Char) := do
  let (whole, rest) ← readWhole cs
  let (fraction, rest) ← readFraction rest
  let (exponent, rest) ← readExponent rest
  let n ← makeNumber negative whole fraction exponent
  some (n, rest)

def readNumber (cs : List Char) : Option (Number × List Char) :=
  match cs with
  | '-' :: rest => readUnsigned true rest
  | _ => readUnsigned false cs

/-! ### Strings -/

def hexQuad? (a b c d : Char) : Option Nat := do
  some ((((← Hex.value? a) * 16 + (← Hex.value? b)) * 16 + (← Hex.value? c)) * 16 + (← Hex.value? d))

/-- What a backslash and one letter stand for. --/
def escaped? (c : Char) : Option Char :=
  match c with
  | '"' => some '"'
  | '\\' => some '\\'
  | '/' => some '/'
  | 'b' => some '\x08'
  | 'f' => some '\x0c'
  | 'n' => some '\n'
  | 'r' => some '\r'
  | 't' => some '\t'
  | _ => none

/-- The rest of a string up to its closing quote; `acc` holds what was read, backwards. Two halves of a pair
    of escapes make one character, and neither stands alone. --/
def readText (acc : List Char) : List Char → Option (List Char × List Char)
  | [] => none
  | '"' :: rest => some (acc.reverse, rest)
  | '\\' :: 'u' :: a :: b :: c :: d :: rest =>
    match hexQuad? a b c d with
    | none => none
    | some n =>
      if n < 0xD800 ∨ 0xDFFF < n then readText (Char.ofNat n :: acc) rest
      else if 0xDC00 ≤ n then none
      else
        match rest with
        | '\\' :: 'u' :: e :: f :: g :: h :: rest =>
          match hexQuad? e f g h with
          | none => none
          | some m =>
            if m < 0xDC00 ∨ 0xDFFF < m then none
            else readText (Char.ofNat (0x10000 + (n - 0xD800) * 0x400 + (m - 0xDC00)) :: acc) rest
        | _ => none
  | '\\' :: c :: rest =>
    match escaped? c with
    | none => none
    | some c => readText (c :: acc) rest
  | c :: rest => if c.toNat < 32 ∨ c = '\\' then none else readText (c :: acc) rest

def readString (cs : List Char) : Option (String × List Char) := do
  let (text, rest) ← readText [] cs
  some (String.ofList text, rest)

/-! ### Values -/

/-- The rest of `cs` after the letters of `word`. --/
def readWord (word cs : List Char) : Option (List Char) :=
  if word.isPrefixOf cs then some (cs.drop word.length) else none

mutual

/-- A value, with at most `depth` levels of brackets in it. `fuel` bounds the number of calls. --/
def readValue (fuel depth : Nat) (cs : List Char) : Option (Json × List Char) :=
  match fuel with
  | 0 => none
  | fuel + 1 =>
    match skipSpace cs with
    | '"' :: rest => do
      let (s, rest) ← readString rest
      some (.str s, rest)
    | 'n' :: rest => do some (.null, ← readWord ['u', 'l', 'l'] rest)
    | 't' :: rest => do some (.bool true, ← readWord ['r', 'u', 'e'] rest)
    | 'f' :: rest => do some (.bool false, ← readWord ['a', 'l', 's', 'e'] rest)
    | '[' :: rest =>
      if depth = 0 then none
      else
        match skipSpace rest with
        | ']' :: rest => some (.arr [], rest)
        | rest => readItems fuel (depth - 1) [] rest
    | '\x7b' :: rest =>
      if depth = 0 then none
      else
        match skipSpace rest with
        | '\x7d' :: rest => some (.obj [], rest)
        | rest => readFields fuel (depth - 1) [] rest
    | rest => do
      let (n, rest) ← readNumber rest
      some (.num n, rest)

/-- Items up to the closing bracket; `acc` holds those read, backwards. --/
def readItems (fuel depth : Nat) (acc : List Json) (cs : List Char) : Option (Json × List Char) :=
  match fuel with
  | 0 => none
  | fuel + 1 =>
    match readValue fuel depth cs with
    | none => none
    | some (v, rest) =>
      match skipSpace rest with
      | ',' :: rest => readItems fuel depth (v :: acc) rest
      | ']' :: rest => some (.arr (v :: acc).reverse, rest)
      | _ => none

/-- Members up to the closing brace; `acc` holds those read, backwards, so that a later member of a name wins. --/
def readFields (fuel depth : Nat) (acc : Fields) (cs : List Char) : Option (Json × List Char) :=
  match fuel with
  | 0 => none
  | fuel + 1 =>
    match skipSpace cs with
    | '"' :: rest =>
      match readString rest with
      | none => none
      | some (k, rest) =>
        match skipSpace rest with
        | ':' :: rest =>
          match readValue fuel depth rest with
          | none => none
          | some (v, rest) =>
            match skipSpace rest with
            | ',' :: rest => readFields fuel depth ((k, v) :: acc) rest
            | '\x7d' :: rest =>
              some (.obj (((k, v) :: acc).foldl (fun o f => Fields.insertNew f.1 f.2 o) []), rest)
            | _ => none
        | _ => none
    | _ => none

end

/-- Values may nest this deep. --/
def greatestDepth : Nat := 127

/-- The value that `text` is the JSON form of, if it nests at most `depth` levels deep. --/
def parseWithin? (depth : Nat) (text : String) : Option Json :=
  match readValue (2 * text.length + 2) depth text.toList with
  | some (v, rest) => if (skipSpace rest).isEmpty then some v else none
  | none => none

/-- The value that `text` is the JSON form of. --/
def parse? (text : String) : Option Json := parseWithin? greatestDepth text

end Json
end AnsibleStaging
