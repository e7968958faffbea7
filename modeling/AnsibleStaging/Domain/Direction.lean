import AnsibleStaging.Text.CodePointMap

/-! Names with letters that are written from right to left. Once one label has such a letter or such a number, each
    label must keep to one direction, so that no two names look alike. -/

namespace AnsibleStaging
namespace Domain

inductive Direction where
  | left
  | right
  | arabicNumber
  | number
  | mark
  | neutral
deriving DecidableEq

def Direction.ofLetter (c : Char) : Option Direction :=
  match c with
  | 'R' => some .right
  | 'A' => some .arabicNumber
  | 'E' => some .number
  | 'M' => some .mark
  | 'N' => some .neutral
  | _ => none

def directions : CodePointMap Direction := .ofRuns (fun e => (e.total, Direction.ofLetter e.letter))
  ["1cNaE7NqL6NqL5NxL7N1L1N1L2N1L1N1L2N4L2N3L1N3L1NnL1NvL1NchL2N7LeN2L6N6L2N5L9N1LhN1sM2L1M3L9M1LwM5L1N3kL1N",
    "3wL7M74L1N2L3N1L19M1R1M1R2M1R2M1R1M8LrR4L6RhL2N1R2N1R1N1R2NbM1R1L1aRlMaA1N2A3R1M4R4L2lR7M1L1N6M2R2M1N4M2R",
    "aEkR2L1R1MuRrM2L2hRbM1ReL17R9M2R4N1R2L1MoR4M1R9M1R3M1R5M2LfR1LpR3M2L1R1LbR5LwR7L9M16RoM1LwM1jL1M1L1M4L8M4L",
    "1M3L7MaL2MtL1M1mL1M4L4M8L1MkL2MeL2N7L1N2L1M2L2M1lL1M4L2M4L2M2L3M3L1MuL2M3L1MbL2M1lL1M4L5M1L2M4L1MkL2MdL1N",
    "8L6M1L1M1mL1M2L1M1L4M8L1M7L2MbL2MuL1M1pL1McL1M11L8N5L1M3L1M1jL1M1L3M5L3M1L4M7L2MbL2MkL7N2L1M1mL1MfL2MkL2M",
    "sL2M1lL2M4L4M8L1MkL2MtL1M20L1M7L3M1L1M2iL1M2L7M4L1N7L8M2qL1M2L9MbL7M21L2MrL1M1L1M1L1M4N1fL2M1L1M5L5M1L1M1L",
    "3M1L2M5L6M1L4M1L4M1L4M1L4M1L4M1LcM1L3M9L1M2uL4M1L6M1L2M2L2MpL2M4L3MgL4MdL1M2L2M6L1MfL1MjjL3M1cLaN2uL1NiiL",
    "2N39L3MtL2MuL2MuL2M1vL7M8L1M2LbM7L1N1L1MiLaN6LbN3eL2MyL1M3aL3M4L2M9L1M6L3M4L1N3L2N48LyNnL2M2L1M1mL1M1L7M1L",
    "1M1L1M2L8M6LaM2L1M1cL1aM2LcMkL4M1cL1M1L5M1L1M5L1MbL2NrL9MbL1N2MwL4M2L2M1L3M1kL1M1L2M3L1M1L3M1mL8M2L2M48L3M",
    "1LdM1L7M4L1M6L1M3L2M5iL1sMekL2N2L1N1L5N1LcN3L1N8L3N2L1N2L4N1L1N1L8N3LdN1L7N1tL8N1LpNeLxMjL1N3L1NbL1N2L2N5L",
    "2N3L1N1L1N1L1N1L1N4L1NbL1N6L4N5L4N1oL2N4L4cN2L1N2L6wN2LbN1xLqN1L44NmLbN4gLchN1L9fN74L7gN1L2vN3L2tN1L47N2L",
    "3uN6dL6N4L3M7L7N3jL1M2oLwM2mNyLqN1L4N1L2bN7iL1N1L2N3LpN9L4M2L1N6L1N5L3N2hL2M5L1N2iL1N5gL12N5i2L1sNh3kL1jN",
    "92L3N2nL4M1NaM2NuL2M28L2MeLyN2uL1N3dL1M3L1M4L1MpL2M1L4N1MbL2N1mL4N24L2MqLiMdL1M12L8MpLbM1aL3M1cL1M2L4M2L2M",
    "13L1M1vL6M2L2M2L2McL1M8L1M1bL1M1fL1M1L3M2L2M5L2M1L1M16L2M8L1M37L2N3dL1M2L1M4L1Mfn4L1M43LxRa3LiN1sL2R1iL7R",
    "1N19L3NwLgMlL2N18L1Ri5L1N1qL25N3LdN3L1N2kL1M6aL1MrE3eL5Mw5L6R2L1R1L18R1L2R3L1R2LnR1L20R8L9R1cLjR1L2R5LxR3L",
    "1NqR5LrR12L1kR4LkR2L1bR3M1L2M5L4M4R1L3R1LtR2L3M4L1M9R7L9R7L1sRwL11R2M4LcR9L1iR3L7NmR2LrR5LqR7L4RcL7R28L21R",
    "3bL1fR7L16R4M8LaA6LgRpL5MoR8L2R5sLvA1L16R1L2M1R2L2RgL6R8L9RxL6M14R8LmRbM9RmLiR4M4R12LsRkLnRaL1M1iLfMbLkNaL",
    "1M2L2MaL3M1dL4M2L2M7L1M1pL3M10L5M1L8M1qL1McL2M1gL9MaL4M2L1M2nL3M2L1M1L2M6L1M2L1M4dL1M3L8MlL2M1lL2M3L1M11L",
    "7M3L5M1yL6MdL1M1L1M1L1M1L2N1L2N8L2M2dL8M2L3M1L1MnL1M2cL6M1L1M4L2M1L2M6mL4M6L2M1L2MrL2M2dL8M2L1M1L2MvLdN1qL",
    "1M1L1M2L6M1L1M2tL3M2L4M1L5M77L9M1L2M74L2M1L1M4L1M40L4M2L2M4L1MwL6M2L2M14L6M2L4M8L1M9L6M2L3M1aLdM1L2M2uLaN",
    "2eL1M1L3M1L1M3eL1N26L7M1L6M2cLmM2L7M1L2M1L2M3eL6M3L1M1L2M1L7M1L1M20L2M3L1M1L1M9nL2MbL2M1gL5M5L1M1L1MdNaL1M",
    "3eLtN40eL1M6LfM8ugLcM3L3M1xcL5M1nL7MfqL3NdbL1M1rL4M27L1N1L1Mf5kL2M31dL5yN10L3N3Lc4N6LnNfLhNfL1aM2LnMf4L3M",
    "hL8M2L7MuL4M1nL2NlL1uN3M1N56L2fN1bdL1jM4L1eM8L1MeL1MmL5M1LfM11sL7M1LhM2L7M1L2M1L5M2sL1M4gL7MafL1M1pL4MfL1N",
    "doL4M72L2MfL1N6bL1M2L1M7L2M5L1M7eL5hR2L9R7M23LyR7M1R4LaR4L2RltL1wR24L1pRc2L2N7iL18N4L2sNcLfN2LfN1LfN1L11N",
    "lL5NvL1N1pL3N1pL1N4yL6N4aLrdN3LhN3LdN3L62N6LcN4L1NfLcN4L1kN8LaN6L14N8LuN2LcN4L2NeL9N13L9kN8LeN2LdN3LbN3L",
    "1lN1L1N4LgN2LcN4LaN7L43N1L2kNaL1N"]

/-- How a character is written; most are written from left to right. --/
def direction (c : Char) : Direction := (directions.get? c).getD .left

/-- Whether a name with this character is one that must keep to directions. --/
def turns (c : Char) : Bool := direction c == .right || direction c == .arabicNumber

def keepsDirection (label : List Char) : Bool :=
  let ds := label.map direction
  let last := (ds.reverse.dropWhile (· == .mark)).head?
  match ds.head? with
  | none => true
  | some .left =>
    !(ds.contains .right || ds.contains .arabicNumber) && (last == some .left || last == some .number)
  | some .right =>
    !ds.contains .left && !(ds.contains .number && ds.contains .arabicNumber) &&
      (last == some .right || last == some .number || last == some .arabicNumber)
  | some _ => false

end Domain
end AnsibleStaging
