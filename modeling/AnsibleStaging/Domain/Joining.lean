import AnsibleStaging.Domain.Composition

/-! Where a name may hold a joiner, which shows nothing by itself: after a mark that takes the vowel away, or, for
    the one that keeps letters apart, between letters that would join. -/

namespace AnsibleStaging
namespace Domain

/-- How a letter joins the letters beside it. --/
inductive Joining where
  | before
  | after
  | both
  | always
  | through
deriving DecidableEq

def Joining.ofLetter (c : Char) : Option Joining :=
  match c with
  | 'R' => some .before
  | 'L' => some .after
  | 'D' => some .both
  | 'C' => some .always
  | 'T' => some .through
  | _ => none

def joinings : CodePointMap Joining := .ofRuns (fun e => (e.total, Joining.ofLetter e.letter))
  ["lcU1sT2U1T3U9T1UwT7nU7T7bU19T1U1T1U2T1U2T1U1T20UbT5U1D1U4R1D1R1D1R5D4RdD1C7D1R2DlTeU2D1T3R5UfDiR12D1R2D9R",
    "1D1R1D1R2D2R1U1R7T2U6T2U2T1U4T2RaU3D2U1DgU1R1T3D5R4D1R9D1R1D1R1D1R2D1RrT2U1RbD3RfD2R4D1R1D2R3D2R6D12UbTpU",
    "xD9T6U1C2U1ToU4T1U9T1U3T1U5TiU1R5D2R1D1RaD1R1D3R3T4U1D1U4D1U1R1D2R5UjR3C1D2U5D1R1D7U9TaD3R1U1R2D2R6D1RfD1U",
    "oT1UwT1jU1T1U1T4U8T4U1T3U7TaU2TtU1T1mU1T4U4T8U1TkU2TqU1T2U2T1lU1T4U2T4U2T2U3T3U1TuU2T3U1TbU2T1lU1T4U5T1U2T",
    "4U1TkU2TmU6T1U1T1mU1T2U1T1U4T8U1T7U2TbU2TuU1T1pU1TcU1T1eU1T3U1T1jU1T1U3T5U3T1U4T7U2TbU2TtU1T1mU1T2U1T6U1T",
    "5U2TkU2TsU2T1lU2T4U4T8U1TkU2TtU1T20U1T7U3T1U1T2iU1T2U7TcU8T2qU1T2U9TbU7T21U2TrU1T1U1T1U1T1jU2T1U1T5U5T1U1T",
    "1U3T1U2T5U6T1U4T1U4T1U4T1U4T1U4T1UcT1U3T9U1T2uU4T1U6T1U2T2U2TpU2T4U3TgU4TdU1T2U2T6U1TfU1TjjU3TqaU3TtU2TuU",
    "2TuU2T1vU7T8U1T2UbT9U1T15U1D2U1ClU2hDcU2TyD1T1D39U3T4U2T9U1T6U3T63U2T2U1T1mU1T1U7T1U1T1U1T2U8T6UaT2U1T1cU",
    "1aT2UcTkU4T1cU1T1U5T1U1T5U1T14U9TcU2TwU4T2U2T1U3T1kU1T1U2T3U1T1U3T1mU8T2U2T48U3T1UdT1U7T4U1T6U1T3U2T5iU1sT",
    "elU1C5eUxT2daU3T3xU1T2oUwTfeU4T2zU2Tn9wU4T1UaTwU2T28U2T7kU1T3U1T4U1TpU2T5U1TjU1eD1L29U2TqUiTdU1T12U8TpUbT",
    "1aU3T1cU1T2U4T2U2T13U1T1vU6T2U2T2U2TcU1T8U1T1bU1T1fU1T1U3T2U2T5U2T1U1T16U2T8U1T6mU1T2U1T4U1Tfn4U1TldUgTr1U",
    "1T6aU1T45U5T1aeU3T1U2T5U4T14U3T4U1T3kU5D1R1U1R1U2R2U1L5R4D1L5D1R3D1R2U1R2T4U4D1R40U1D1R1D3R3D1R2D1R1D2R1D",
    "1RnU4R2D9dU1LxD1R1D4T1tU5T8tU2TlU1R2D1U2D1eU6T1cU3D1RhD1UbT3D1RrU4D2RcD4T16U1D1U2D3R1U1D2R2D1R2D1U1D2R1D4U",
    "1R1D1L1hU1T1iUfT15U1T2U2TaU3T1dU4T2U2T7U1T1pU3T10U5T1U8T1qU1TcU2T1gU9TaU4T2U1T2nU3T2U1T1U2T6U1T2U1T4dU1T3U",
    "8TlU2T1lU2T3U1T11U7T3U5T1yU6TdU1T1U1T1U1TeU2T2dU8T2U3T1U1TnU1T2cU6T1U1T4U2T1U2T6mU4T6U2T1U2TrU2T2dU8T2U1T",
    "1U2T2yU1T1U1T2U6T1U1T2tU1T1U1T2U4T1U5T77U9T1U2T74U2T1U1T4U1T40U4T2U2T4U1TwUaT14U6T2U4T8U1T9U6T2U3T1aUdT1U",
    "2T5iU1T1U3T1U1T5lU7T1U6T1U1T2aUmT2U7T1U2T1U2T3eU6T3U1T1U2T1U7T1U1T20U2T3U1T1U1T9nU2TbU2T1gU5T5U1T1U1TnU1T",
    "44lU1T6UfT8ugUcT3U3T1xcU5T1nU7Tt4U1T1rU4T29U1Tf5kU2T3mpU1aT2UnTf4U3ThU8T2U7TuU4T44U3T1izU1jT4U1eT8U1TeU1T",
    "mU5T1UfT11sU7T1UhT2U7T1U2T1U5T2sU1T4gU7TafU1T1pU4Te4U4T72U2T6rU1T2U1T7U2T5U1Td6U7T23UyD8T"]

/-- Whether letters join a neighbour, seen from it outwards; letters that are joined through do not count. --/
def joins (side : Joining) : List Char → Bool
  | [] => false
  | c :: rest =>
    match joinings.get? c with
    | some .through => joins side rest
    | some j => j == .both || j == side
    | none => false

/-- The class of the marks that take a vowel away. --/
def vowelKiller : Nat := 9

/-- Whether every joiner in a label may stand there; `back` is what stands before, backwards. --/
def joinersFit (back : List Char) : List Char → Bool
  | [] => true
  | c :: rest =>
    let afterKiller := (back.head?.map markClass) == some vowelKiller
    let fits :=
      if c.toNat = 0x200C then afterKiller || (joins .after back && joins .before rest)
      else if c.toNat = 0x200D then afterKiller
      else true
    fits && joinersFit (c :: back) rest

end Domain
end AnsibleStaging
