import AnsibleStaging.Text.Hex

/-! Percent encoding. Each part of a URL has a set of ASCII characters that are written as `%` and two capital digits
    for every byte; characters beyond ASCII always are. The sign `%` itself is in no set, so what is encoded
    already stays as it is. -/

namespace AnsibleStaging
namespace Percent

/-- A character that is encoded in every part. --/
def isControl (c : Char) : Bool := c.toNat < 0x20 || 0x7F ≤ c.toNat

/-- A set of characters to encode besides the controls. --/
abbrev EncodeSet := List Char

def fragmentSet : EncodeSet := [' ', '"', '<', '>', '`']
def querySet : EncodeSet := [' ', '"', '#', '<', '>']
def specialQuerySet : EncodeSet := '\'' :: querySet
def pathSet : EncodeSet := '#' :: '?' :: '\x7b' :: '\x7d' :: fragmentSet
def userinfoSet : EncodeSet := '/' :: ':' :: ';' :: '=' :: '@' :: '[' :: '\\' :: ']' :: '^' :: '|' :: pathSet

def encodes (s : EncodeSet) (c : Char) : Bool := isControl c || s.contains c

def encodeByte (b : UInt8) : List Char := ['%', Hex.capital (b.toNat / 16), Hex.capital (b.toNat % 16)]

def encodeChar (s : EncodeSet) (c : Char) : List Char :=
  if encodes s c then (String.utf8EncodeChar c).flatMap encodeByte else [c]

def encodeChars (s : EncodeSet) (cs : List Char) : List Char := cs.flatMap (encodeChar s)

def encode (s : EncodeSet) (text : String) : String := String.ofList (encodeChars s text.toList)

/-- The bytes of a row of characters. --/
def bytesOf (cs : List Char) : List UInt8 := cs.flatMap String.utf8EncodeChar

/-- The bytes that a text with encoded bytes stands for; a `%` without two digits stands for itself. --/
def decodeBytes : List UInt8 → List UInt8
  | [] => []
  | [a] => [a]
  | [a, b] => [a, b]
  | a :: b :: c :: rest =>
    if a = 0x25 then
      match Hex.value? (Char.ofNat b.toNat), Hex.value? (Char.ofNat c.toNat) with
      | some high, some low => UInt8.ofNat (high * 16 + low) :: decodeBytes rest
      | _, _ => a :: decodeBytes (b :: c :: rest)
    else a :: decodeBytes (b :: c :: rest)

def decode (text : String) : ByteArray := (decodeBytes (bytesOf text.toList)).toByteArray

end Percent
end AnsibleStaging
