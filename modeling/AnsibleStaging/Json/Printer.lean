import AnsibleStaging.Json.Basic
import AnsibleStaging.Text.Hex

/-! The compact text of a JSON value: no blanks, members in the order in which they stand. -/

namespace AnsibleStaging
namespace Json

/-- Doubles are written in place while the leading digit is worth `10 ^ -5` to `10 ^ 15`. --/
def doubleLayout : Double.Layout := ⟨-5, 15⟩

end Json

namespace Number

def write : Number → List Char
  | .int n _ => if n < 0 then '-' :: Nat.toDigits 10 n.natAbs else Nat.toDigits 10 n.natAbs
  | .double d => Json.doubleLayout.text d

def text (n : Number) : String := String.ofList n.write

end Number

namespace Json

/-- How a character stands in a string: controls, quotes and backslashes are escaped and nothing else. --/
def writeChar (c : Char) : List Char :=
  if c = '"' then ['\\', '"']
  else if c = '\\' then ['\\', '\\']
  else if c = '\n' then ['\\', 'n']
  else if c = '\r' then ['\\', 'r']
  else if c = '\t' then ['\\', 't']
  else if c.toNat = 8 then ['\\', 'b']
  else if c.toNat = 12 then ['\\', 'f']
  else if c.toNat < 32 then ['\\', 'u', '0', '0', Hex.digit (c.toNat / 16), Hex.digit (c.toNat % 16)]
  else [c]

def writeString (s : String) : List Char := '"' :: (s.toList.flatMap writeChar ++ ['"'])

mutual

def write : Json → List Char
  | .null => ['n', 'u', 'l', 'l']
  | .bool true => ['t', 'r', 'u', 'e']
  | .bool false => ['f', 'a', 'l', 's', 'e']
  | .num n => n.write
  | .str s => writeString s
  | .arr [] => ['[', ']']
  | .arr (v :: rest) => '[' :: (write v ++ writeItems rest)
  | .obj [] => ['\x7b', '\x7d']
  | .obj ((k, v) :: rest) => '\x7b' :: (writeString k ++ ':' :: (write v ++ writeFields rest))

/-- The items after the first, with the closing bracket. --/
def writeItems : List Json → List Char
  | [] => [']']
  | v :: rest => ',' :: (write v ++ writeItems rest)

/-- The members after the first, with the closing brace. --/
def writeFields : List (String × Json) → List Char
  | [] => ['\x7d']
  | (k, v) :: rest => ',' :: (writeString k ++ ':' :: (write v ++ writeFields rest))

end

def render (v : Json) : String := String.ofList v.write

end Json
end AnsibleStaging
