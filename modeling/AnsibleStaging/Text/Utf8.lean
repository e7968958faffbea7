/-! Bytes and text. Reading is strict (`decode?`) or lossy (`lossy`): a lossy reading shows U+FFFD for each
    longest piece that no character starts with, and agrees with the strict one on valid text. -/

namespace AnsibleStaging
namespace Utf8

/-- The text that `bytes` encode, if they encode one. --/
def decode? (bytes : ByteArray) : Option String := String.fromUTF8? bytes

/-- The shape of a character that starts with a byte: how many bytes follow, and the range of the first
    of them. --/
structure Lead where
  follow : Nat
  low : UInt8
  high : UInt8

/-- The shape that a leading byte asks for; none for a byte that starts no character. --/
def lead? (b : UInt8) : Option Lead :=
  if b < 0x80 then some ⟨0, 0x80, 0xBF⟩
  else if b < 0xC2 then none
  else if b < 0xE0 then some ⟨1, 0x80, 0xBF⟩
  else if b = 0xE0 then some ⟨2, 0xA0, 0xBF⟩
  else if b = 0xED then some ⟨2, 0x80, 0x9F⟩
  else if b < 0xF0 then some ⟨2, 0x80, 0xBF⟩
  else if b = 0xF0 then some ⟨3, 0x90, 0xBF⟩
  else if b < 0xF4 then some ⟨3, 0x80, 0xBF⟩
  else if b = 0xF4 then some ⟨3, 0x80, 0x8F⟩
  else none

/-- The payload of a leading byte with `follow` bytes after it. --/
def leadBits (b : UInt8) (follow : Nat) : Nat :=
  match follow with
  | 0 => b.toNat
  | 1 => b.toNat % 32
  | 2 => b.toNat % 16
  | _ => b.toNat % 8

/-- Adds up to `n` continuation bytes to `code`, the first of them between `low` and `high`; answers the
    code point when all came, and what is left. --/
def continue? : Nat → UInt8 → UInt8 → Nat → List UInt8 → Option Nat × List UInt8
  | 0, _, _, code, rest => (some code, rest)
  | _ + 1, _, _, _, [] => (none, [])
  | n + 1, low, high, code, b :: rest =>
    if low ≤ b ∧ b ≤ high then continue? n 0x80 0xBF (code * 64 + b.toNat % 64) rest
    else (none, b :: rest)

theorem length_continue?_le (n : Nat) (low high : UInt8) (code : Nat) (bytes : List UInt8) :
    (continue? n low high code bytes).2.length ≤ bytes.length := by
  fun_induction continue? n low high code bytes with
  | case1 => exact Nat.le_refl _
  | case2 => exact Nat.le_refl _
  | case3 n low high code b rest h ih => exact Nat.le_succ_of_le ih
  | case4 => exact Nat.le_refl _

/-! ### Where bytes stop being text -/

/-- Where bytes stop encoding characters, and how many of them fail together; none if the bytes end there. --/
structure Fault where
  start : Nat
  length : Option Nat
deriving DecidableEq

/-- The first fault of bytes that stand at `start`. --/
def faultFrom (start : Nat) : List UInt8 → Option Fault
  | [] => none
  | b :: rest =>
    match lead? b with
    | none => some ⟨start, some 1⟩
    | some l =>
      match h : continue? l.follow l.low l.high (leadBits b l.follow) rest with
      | (some _, next) => faultFrom (start + 1 + l.follow) next
      | (none, next) => some ⟨start, if next = [] then none else some (1 + rest.length - next.length)⟩
termination_by bytes => bytes.length
decreasing_by
  have hle := length_continue?_le l.follow l.low l.high (leadBits b l.follow) rest
  rw [h] at hle
  exact Nat.lt_succ_of_le hle

def fault? (bytes : ByteArray) : Option Fault := faultFrom 0 bytes.toList

def Fault.message (f : Fault) : String :=
  match f.length with
  | some n => "invalid utf-8 sequence of " ++ toString n ++ " bytes from index " ++ toString f.start
  | none => "incomplete utf-8 byte sequence from index " ++ toString f.start

/-! ### Lossy reading -/

/-- The character that stands for bytes that encode none. --/
def replacement : Char := Char.ofNat 0xFFFD

/-- The characters of `bytes`, with one replacement for each longest piece that no character starts
    with. --/
def lossyChars : List UInt8 → List Char
  | [] => []
  | b :: rest =>
    match lead? b with
    | none => replacement :: lossyChars rest
    | some l =>
      let next := continue? l.follow l.low l.high (leadBits b l.follow) rest
      (next.1.elim replacement Char.ofNat) :: lossyChars next.2
termination_by bytes => bytes.length
decreasing_by
  · simp
  · exact Nat.lt_succ_of_le (length_continue?_le ..)

/-- The text of `bytes` as far as they encode one. --/
def lossy (bytes : ByteArray) : String :=
  match decode? bytes with
  | some text => text
  | none => String.ofList (lossyChars bytes.toList)

end Utf8
end AnsibleStaging
