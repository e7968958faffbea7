/-! White space as Unicode defines it, and its removal at both ends of a text. -/

namespace AnsibleStaging

/-- The characters with the White_Space property. --/
def isBlank (c : Char) : Bool :=
  let n := c.toNat
  (9 ≤ n && n ≤ 13) || n == 0x20 || n == 0x85 || n == 0xA0 || n == 0x1680 || (0x2000 ≤ n && n ≤ 0x200A) ||
    n == 0x2028 || n == 0x2029 || n == 0x202F || n == 0x205F || n == 0x3000

/-- The characters without those at either end on which `p` holds. --/
def trimChars (p : Char → Bool) (cs : List Char) : List Char :=
  ((cs.dropWhile p).reverse.dropWhile p).reverse

/-- The characters without those at the end on which `p` holds. --/
def trimEndChars (p : Char → Bool) (cs : List Char) : List Char := (cs.reverse.dropWhile p).reverse

/-- `text` without the white space at its ends. --/
def trimBlank (text : String) : String := String.ofList (trimChars isBlank text.toList)

end AnsibleStaging
