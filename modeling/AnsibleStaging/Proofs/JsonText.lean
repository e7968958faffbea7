import AnsibleStaging.Json.Printer
import AnsibleStaging.Json.Reader
import AnsibleStaging.Proofs.RoundTrip
import Mathlib.Data.List.TakeWhile

/-! Reading the text of a value gives the value back. The text says of each part where it ends: a string ends with its
    quote, brackets close, and a number is followed by what cannot belong to a number. So each part is read from its text
    with anything behind it, and the parts of a value are read one after another. Whole numbers come back as they are; a
    double comes back as what its own text is read as. -/

namespace AnsibleStaging
namespace Json

/-! ### Strings -/

section
variable {acc rest : List Char}

theorem readText_plain {c : Char} (hquote : c ≠ '"') (hslash : c ≠ '\\') (hcontrol : ¬c.toNat < 32) :
    readText acc (c :: rest) = readText (c :: acc) rest := by
  rw [readText]
  · simp [hcontrol, hslash]
  all_goals simp_all

theorem readText_escaped {c d : Char} (hc : c ≠ 'u') (hd : escaped? c = some d) :
    readText acc ('\\' :: c :: rest) = readText (d :: acc) rest := by
  rw [readText]
  · rw [hd]
  · simp_all

/-- A control without a letter of its own is written with the number of its place. --/
theorem readText_control {c : Char} (hc : c.toNat < 32) :
    readText acc ('\\' :: 'u' :: '0' :: '0' :: Hex.digit (c.toNat / 16) :: Hex.digit (c.toNat % 16) :: rest) =
      readText (c :: acc) rest := by
  have hquad : hexQuad? '0' '0' (Hex.digit (c.toNat / 16)) (Hex.digit (c.toNat % 16)) = some c.toNat := by
    have hzero : Hex.value? '0' = some 0 := by decide
    rw [hexQuad?, hzero, Hex.value?_digit (by omega), Hex.value?_digit (by omega)]
    exact congrArg some (by omega)
  rw [readText, hquad]
  have hplain : c.toNat < 0xD800 ∨ 0xDFFF < c.toNat := by omega
  simp only [hplain, if_true, Char.ofNat_toNat]

theorem readText_writeChar (c : Char) : readText acc (writeChar c ++ rest) = readText (c :: acc) rest := by
  rw [writeChar]
  split
  · next h => exact h.symm ▸ readText_escaped (c := '"') (by decide) rfl
  · next hquote =>
    split
    · next h => exact h.symm ▸ readText_escaped (c := '\\') (by decide) rfl
    · next hslash =>
      split
      · next h => exact h.symm ▸ readText_escaped (c := 'n') (by decide) rfl
      · split
        · next h => exact h.symm ▸ readText_escaped (c := 'r') (by decide) rfl
        · split
          · next h => exact h.symm ▸ readText_escaped (c := 't') (by decide) rfl
          · split
            · next h => exact readText_escaped (c := 'b') (by decide) (congrArg some (Char.toNat_inj.mp h.symm))
            · split
              · next h => exact readText_escaped (c := 'f') (by decide) (congrArg some (Char.toNat_inj.mp h.symm))
              · split
                · next h => exact readText_control h
                · next h => exact readText_plain hquote hslash h

theorem readText_flatMap (cs : List Char) :
    readText acc (cs.flatMap writeChar ++ '"' :: rest) = some (acc.reverse ++ cs, rest) := by
  induction cs generalizing acc with
  | nil => simp [readText]
  | cons c cs ih => rw [List.flatMap_cons, List.append_assoc, readText_writeChar, ih, List.reverse_cons, List.append_assoc,
      List.singleton_append]

theorem readString_writeString (s : String) (rest : List Char) :
    ∃ text, writeString s ++ rest = '"' :: text ∧ readString text = some (s, rest) := by
  refine ⟨s.toList.flatMap writeChar ++ '"' :: rest, by simp [writeString], ?_⟩
  rw [readString, readText_flatMap]
  exact congrArg some (Prod.ext String.ofList_toList rfl)

end

/-! ### Numbers -/

/-- What does not go on with a number. --/
def EndsNumber (rest : List Char) : Prop := ∀ c ∈ rest.head?, c.isDigit = false ∧ c ≠ '.' ∧ c ≠ 'e' ∧ c ≠ 'E'

theorem span_append {p : Char → Bool} {rest : List Char} (h : ∀ c ∈ rest.head?, p c = false) (cs : List Char) :
    (cs ++ rest).takeWhile p = cs.takeWhile p ∧ (cs ++ rest).dropWhile p = cs.dropWhile p ++ rest := by
  induction cs with
  | nil =>
    cases rest with
    | nil => exact ⟨rfl, rfl⟩
    | cons c rest => simp [h c rfl]
  | cons c cs ih =>
    by_cases hc : p c = true
    · simp [hc, ih]
    · simp [hc]

section
variable {cs ds r rest : List Char}

theorem readDigits_append (h : readDigits cs = some (ds, r)) (hrest : EndsNumber rest) :
    readDigits (cs ++ rest) = some (ds, r ++ rest) := by
  obtain ⟨htake, hdrop⟩ := span_append (p := Char.isDigit) (fun c hc => (hrest c hc).1) cs
  unfold readDigits at h ⊢
  rw [htake, hdrop]
  split at h
  · cases h
  · next hne =>
    cases h
    rfl

theorem readWhole_append (h : readWhole cs = some (ds, r)) (hrest : EndsNumber rest) :
    readWhole (cs ++ rest) = some (ds, r ++ rest) := by
  obtain ⟨⟨ds', r'⟩, hdigits, h⟩ := Option.bind_eq_some_iff.mp h
  rw [readWhole, readDigits_append hdigits hrest]
  dsimp only at h
  dsimp only [bind, Option.bind]
  split at h
  · cases h
  · cases h
    rfl

theorem readFraction_append {f : Option (List Char)} (h : readFraction cs = some (f, r)) (hrest : EndsNumber rest) :
    readFraction (cs ++ rest) = some (f, r ++ rest) := by
  unfold readFraction at h
  split at h
  · next cs =>
    obtain ⟨⟨ds, r'⟩, hdigits, h⟩ := Option.bind_eq_some_iff.mp h
    cases h
    rw [List.cons_append, readFraction, readDigits_append hdigits hrest]
    rfl
  · next hpoint =>
    cases h
    rw [readFraction]
    intro cs' hcs
    cases cs with
    | nil => exact (hrest '.' (by rw [show rest = '.' :: cs' from hcs]; rfl)).2.1 rfl
    | cons c cs => exact hpoint cs (by rw [(List.cons.inj hcs).1])

theorem readSigned_append {e : Option Int} (h : readSigned cs = some (e, r)) (hrest : EndsNumber rest) :
    readSigned (cs ++ rest) = some (e, r ++ rest) := by
  unfold readSigned at h
  split at h
  · obtain ⟨⟨ds, r'⟩, hdigits, h⟩ := Option.bind_eq_some_iff.mp h
    cases h
    rw [List.cons_append, readSigned, readDigits_append hdigits hrest]
    rfl
  · obtain ⟨⟨ds, r'⟩, hdigits, h⟩ := Option.bind_eq_some_iff.mp h
    cases h
    rw [List.cons_append, readSigned, readDigits_append hdigits hrest]
    rfl
  · next hminus hplus =>
    obtain ⟨⟨ds, r'⟩, hdigits, h⟩ := Option.bind_eq_some_iff.mp h
    cases h
    cases cs with
    | nil => cases hdigits
    | cons c cs =>
      rw [List.cons_append, readSigned, ← List.cons_append, readDigits_append hdigits hrest]
      · rfl
      · exact fun cs' hcs => hminus cs (by rw [(List.cons.inj hcs).1])
      · exact fun cs' hcs => hplus cs (by rw [(List.cons.inj hcs).1])

theorem readExponent_append {e : Option Int} (h : readExponent cs = some (e, r)) (hrest : EndsNumber rest) :
    readExponent (cs ++ rest) = some (e, r ++ rest) := by
  unfold readExponent at h
  split at h
  · rw [List.cons_append, readExponent, readSigned_append h hrest]
  · rw [List.cons_append, readExponent, readSigned_append h hrest]
  · next hsmall hcapital =>
    cases h
    have hhead : ∀ c cs', cs ++ rest = c :: cs' → c ≠ 'e' ∧ c ≠ 'E' := by
      intro c cs' hcs
      cases cs with
      | nil => exact (hrest c (by rw [show rest = c :: cs' from hcs]; rfl)).2.2
      | cons d cs =>
        obtain ⟨rfl, -⟩ := List.cons.inj hcs
        exact ⟨fun hd => hsmall cs (by rw [hd]), fun hd => hcapital cs (by rw [hd])⟩
    rw [readExponent]
    · exact fun cs' hcs => (hhead _ _ hcs).1 rfl
    · exact fun cs' hcs => (hhead _ _ hcs).2 rfl

theorem readUnsigned_append {negative : Bool} {n : Number} (h : readUnsigned negative cs = some (n, r))
    (hrest : EndsNumber rest) : readUnsigned negative (cs ++ rest) = some (n, r ++ rest) := by
  obtain ⟨⟨ds, r₁⟩, hwhole, h⟩ := Option.bind_eq_some_iff.mp h
  obtain ⟨⟨f, r₂⟩, hfraction, h⟩ := Option.bind_eq_some_iff.mp h
  obtain ⟨⟨e, r₃⟩, hexponent, h⟩ := Option.bind_eq_some_iff.mp h
  obtain ⟨n', hmake, h⟩ := Option.bind_eq_some_iff.mp h
  cases h
  simp [readUnsigned, readWhole_append hwhole hrest, readFraction_append hfraction hrest,
    readExponent_append hexponent hrest, hmake]

/-- A number ends where what is behind it cannot belong to it. --/
theorem readNumber_append {n : Number} (h : readNumber cs = some (n, r)) (hrest : EndsNumber rest) :
    readNumber (cs ++ rest) = some (n, r ++ rest) := by
  unfold readNumber at h
  split at h
  · rw [List.cons_append, readNumber, readUnsigned_append h hrest]
  · next hsign =>
    cases cs with
    | nil => cases h
    | cons c cs =>
      rw [List.cons_append, readNumber, ← List.cons_append, readUnsigned_append h hrest]
      exact fun cs' hcs => hsign cs (by rw [(List.cons.inj hcs).1])

end

/-! ### Whole numbers -/

theorem le_ofDigitChars (cs : List Char) (a : Nat) : a ≤ Nat.ofDigitChars 10 cs a := by
  induction cs generalizing a with
  | nil => exact Nat.le_refl a
  | cons c cs ih =>
    have := ih (10 * a + (c.toNat - '0'.toNat))
    rw [Nat.ofDigitChars_cons]
    omega

theorem foldl_whole {cs : List Char} {a : Nat} (h : Nat.ofDigitChars 10 cs a < 18446744073709551616) :
    cs.foldl Digits.whole ⟨a, 0, false⟩ = ⟨Nat.ofDigitChars 10 cs a, 0, false⟩ := by
  induction cs generalizing a with
  | nil => rfl
  | cons c cs ih =>
    rw [Nat.ofDigitChars_cons] at h ⊢
    have hfits : a * 10 + (c.toNat - 48) < 18446744073709551616 := by
      have := le_ofDigitChars cs (10 * a + (c.toNat - '0'.toNat))
      rw [show '0'.toNat = 48 from rfl] at *
      omega
    have hpush : Digits.whole ⟨a, 0, false⟩ c = ⟨10 * a + (c.toNat - '0'.toNat), 0, false⟩ := by
      rw [Digits.whole, Digits.push?, if_pos hfits, Nat.mul_comm a 10]
      rfl
    rw [List.foldl_cons, hpush, ih h]

theorem head_toDigits {k : Nat} (hk : 0 < k) : (Nat.toDigits 10 k).head? ≠ some '0' := by
  induction k using Nat.strongRecOn with
  | _ k ih =>
    rw [Nat.toDigits_eq_if (by decide)]
    split
    · next hlt =>
      simp
      omega
    · obtain ⟨c, cs, hcs⟩ := List.exists_cons_of_ne_nil (Nat.toDigits_ne_nil (n := k / 10) (b := 10))
      have hfirst := ih (k / 10) (by omega) (by omega)
      rw [hcs] at hfirst ⊢
      exact hfirst

theorem readWhole_toDigits (k : Nat) : readWhole (Nat.toDigits 10 k) = some (Nat.toDigits 10 k, []) := by
  have hdigit : ∀ c ∈ Nat.toDigits 10 k, c.isDigit = true := fun c hc =>
    Nat.isDigit_of_mem_toDigits (by decide) (by decide) hc
  have hread : readDigits (Nat.toDigits 10 k) = some (Nat.toDigits 10 k, []) := by
    rw [readDigits, List.takeWhile_eq_self_iff.mpr hdigit, List.dropWhile_eq_nil_iff.mpr hdigit]
    split
    · next hnil => exact absurd hnil Nat.toDigits_ne_nil
    · rfl
  rw [readWhole, hread]
  dsimp only [bind, Option.bind]
  split
  · next c cs hzero =>
    -- Only zero starts with a zero, and it has one digit.
    rcases Nat.eq_zero_or_pos k with rfl | hk
    · cases hzero
    · exact absurd (by rw [hzero]; rfl) (head_toDigits hk)
  · rfl

theorem readUnsigned_toDigits {k : Nat} {negative : Bool} {n : Number}
    (h : makeNumber negative (Nat.toDigits 10 k) none none = some n) :
    readUnsigned negative (Nat.toDigits 10 k) = some (n, []) := by
  simp [readUnsigned, readWhole_toDigits, readFraction, readExponent, h]

theorem foldl_toDigits {k : Nat} (hk : k < 18446744073709551616) :
    (Nat.toDigits 10 k).foldl Digits.whole ⟨0, 0, false⟩ = ⟨k, 0, false⟩ := by
  have hvalue : Nat.ofDigitChars 10 (Nat.toDigits 10 k) 0 = k := Nat.ofDigitChars_toDigits (by decide) (by decide)
  rw [foldl_whole (by rwa [hvalue]), hvalue]

/-- A whole number is read as it is. --/
theorem readNumber_int (n : Int) (h : -9223372036854775808 ≤ n ∧ n < 18446744073709551616) :
    readNumber (Number.int n h).write = some (.int n h, []) := by
  have hfold := foldl_toDigits (k := n.natAbs) (by omega)
  rw [Number.write]
  split
  · next hneg =>
    refine readUnsigned_toDigits ?_
    have habs : -(n.natAbs : Int) = n := by omega
    have hzero : n.natAbs ≠ 0 := by omega
    simp only [makeNumber, hfold, Bool.true_and, beq_iff_eq, hzero, ↓reduceIte, Int.reduceNeg, habs, h, and_self,
      ↓reduceDIte]
  · next hneg =>
    have habs : (n.natAbs : Int) = n := by omega
    have hread : readUnsigned false (Nat.toDigits 10 n.natAbs) = some (.int n h, []) := by
      refine readUnsigned_toDigits ?_
      simp only [makeNumber, hfold, Bool.false_and, Bool.false_eq_true, ↓reduceIte, Int.reduceNeg, habs, h, and_self,
        ↓reduceDIte]
    rw [readNumber]
    · exact hread
    · intro cs hcs
      have hdigit : Char.isDigit '-' = true :=
        Nat.isDigit_of_mem_toDigits (by decide) (by decide) (hcs ▸ List.mem_cons_self)
      cases hdigit

/-! ### Values -/

mutual

/-- The value where each double is what `f` makes of it. --/
def mapDoubles (f : Double → Number) : Json → Json
  | .num (.double d) => .num (f d)
  | .arr items => .arr (mapDoublesItems f items)
  | .obj fields => .obj (mapDoublesFields f fields)
  | v => v

def mapDoublesItems (f : Double → Number) : List Json → List Json
  | [] => []
  | v :: rest => mapDoubles f v :: mapDoublesItems f rest

def mapDoublesFields (f : Double → Number) : List (String × Json) → List (String × Json)
  | [] => []
  | (k, v) :: rest => (k, mapDoubles f v) :: mapDoublesFields f rest

end

mutual

/-- All doubles in the value are as `p` says. --/
def AllDoubles (p : Double → Prop) : Json → Prop
  | .num (.double d) => p d
  | .arr items => AllDoublesItems p items
  | .obj fields => AllDoublesFields p fields
  | _ => True

def AllDoublesItems (p : Double → Prop) : List Json → Prop
  | [] => True
  | v :: rest => AllDoubles p v ∧ AllDoublesItems p rest

def AllDoublesFields (p : Double → Prop) : List (String × Json) → Prop
  | [] => True
  | (_, v) :: rest => AllDoubles p v ∧ AllDoublesFields p rest

end

mutual

/-- How deep the brackets of the value nest. --/
def nesting : Json → Nat
  | .arr items => nestingItems items + 1
  | .obj fields => nestingFields fields + 1
  | _ => 0

def nestingItems : List Json → Nat
  | [] => 0
  | v :: rest => max (nesting v) (nestingItems rest)

def nestingFields : List (String × Json) → Nat
  | [] => 0
  | (_, v) :: rest => max (nesting v) (nestingFields rest)

end

mutual

/-- Where there are no doubles, nothing is made of them. --/
theorem mapDoubles_eq_self (f : Double → Number) : ∀ {v : Json}, v.AllDoubles (fun _ => False) → mapDoubles f v = v
  | .null, _ => rfl
  | .bool _, _ => rfl
  | .num (.int _ _), _ => rfl
  | .num (.double _), h => h.elim
  | .str _, _ => rfl
  | .arr items, h => by rw [mapDoubles, mapDoublesItems_eq_self f h]
  | .obj fields, h => by rw [mapDoubles, mapDoublesFields_eq_self f h]

theorem mapDoublesItems_eq_self (f : Double → Number) :
    ∀ {l : List Json}, AllDoublesItems (fun _ => False) l → mapDoublesItems f l = l
  | [], _ => rfl
  | v :: rest, h => by rw [mapDoublesItems, mapDoubles_eq_self f h.1, mapDoublesItems_eq_self f h.2]

theorem mapDoublesFields_eq_self (f : Double → Number) :
    ∀ {l : List (String × Json)}, AllDoublesFields (fun _ => False) l → mapDoublesFields f l = l
  | [], _ => rfl
  | (k, v) :: rest, h => by rw [mapDoublesFields, mapDoubles_eq_self f h.1, mapDoublesFields_eq_self f h.2]

end

mutual

theorem AllDoubles.mono {p q : Double → Prop} (h : ∀ d, p d → q d) : ∀ {v : Json}, v.AllDoubles p → v.AllDoubles q
  | .null, _ => trivial
  | .bool _, _ => trivial
  | .num (.int _ _), _ => trivial
  | .num (.double d), hd => h d hd
  | .str _, _ => trivial
  | .arr items, hd => AllDoublesItems.mono h (l := items) hd
  | .obj fields, hd => AllDoublesFields.mono h (l := fields) hd

theorem AllDoublesItems.mono {p q : Double → Prop} (h : ∀ d, p d → q d) :
    ∀ {l : List Json}, AllDoublesItems p l → AllDoublesItems q l
  | [], _ => trivial
  | _ :: _, hd => ⟨AllDoubles.mono h hd.1, AllDoublesItems.mono h hd.2⟩

theorem AllDoublesFields.mono {p q : Double → Prop} (h : ∀ d, p d → q d) :
    ∀ {l : List (String × Json)}, AllDoublesFields p l → AllDoublesFields q l
  | [], _ => trivial
  | _ :: _, hd => ⟨AllDoubles.mono h hd.1, AllDoublesFields.mono h hd.2⟩

end

theorem names_mapDoublesFields (f : Double → Number) (o : List (String × Json)) :
    (mapDoublesFields f o).map Prod.fst = o.map Prod.fst := by
  induction o with
  | nil => rfl
  | cons g rest ih => rw [mapDoublesFields, List.map_cons, List.map_cons, ih]

theorem increasing_mapDoublesFields (f : Double → Number) {o : Fields} (h : Fields.Increasing o) :
    Fields.Increasing (mapDoublesFields f o) := by
  have hnames : (o.map Prod.fst).Pairwise (· < ·) := List.pairwise_map.mpr h
  rw [← names_mapDoublesFields f o] at hnames
  exact List.pairwise_map.mp hnames

theorem gathered_of_increasing {o : Fields} (h : Fields.Increasing o) : Fields.gathered o = o := by
  induction o with
  | nil => rfl
  | cons g rest ih =>
    obtain ⟨hfirst, hrest⟩ := List.pairwise_cons.mp h
    change Fields.insertNew g.1 g.2 (Fields.gathered rest) = _
    rw [ih hrest, insertNew_of_lt hfirst]

/-! ### Values from their text -/

theorem skipSpace_cons {c : Char} (h : isSpace c = false) (cs : List Char) : skipSpace (c :: cs) = c :: cs := by
  rw [skipSpace, List.dropWhile_cons_of_neg (by simp [h])]

theorem head_of_readNumber {cs r : List Char} {n : Number} (h : readNumber cs = some (n, r)) :
    ∃ c cs', cs = c :: cs' ∧ (c = '-' ∨ c.isDigit = true) := by
  unfold readNumber at h
  split at h
  · exact ⟨_, _, rfl, Or.inl rfl⟩
  · obtain ⟨⟨ds, r₁⟩, hwhole, -⟩ := Option.bind_eq_some_iff.mp h
    obtain ⟨⟨ds', r'⟩, hdigits, -⟩ := Option.bind_eq_some_iff.mp hwhole
    cases cs with
    | nil => cases hdigits
    | cons c cs =>
      refine ⟨c, cs, rfl, Or.inr ?_⟩
      by_contra hc
      rw [readDigits, List.takeWhile_cons_of_neg hc] at hdigits
      cases hdigits

theorem ne_of_startsNumber {c d : Char} (hc : c = '-' ∨ c.isDigit = true) (hd : d ≠ '-' ∧ d.isDigit = false) : c ≠ d := by
  rintro rfl
  rcases hc with rfl | hc
  · exact hd.1 rfl
  · rw [hc] at hd
    cases hd.2

theorem isSpace_of_startsNumber {c : Char} (hc : c = '-' ∨ c.isDigit = true) : isSpace c = false := by
  simp [isSpace, ne_of_startsNumber hc (d := ' ') (by decide), ne_of_startsNumber hc (d := '\n') (by decide),
    ne_of_startsNumber hc (d := '\t') (by decide), ne_of_startsNumber hc (d := '\r') (by decide)]

/-- The double is read as what `f` makes of it. --/
def ReadAs (f : Double → Number) (d : Double) : Prop := readNumber (Number.double d).write = some (f d, [])

section
variable {rest : List Char} {fuel depth : Nat}

theorem readValue_number {cs : List Char} {n : Number} (h : readNumber cs = some (n, [])) (hrest : EndsNumber rest) :
    readValue (fuel + 1) depth (cs ++ rest) = some (.num n, rest) := by
  obtain ⟨c, cs', rfl, hc⟩ := head_of_readNumber h
  have hread := readNumber_append h hrest
  rw [List.cons_append] at hread ⊢
  rw [readValue, skipSpace_cons (isSpace_of_startsNumber hc)]
  split
  · next heq => exact absurd (List.cons.inj heq).1 (ne_of_startsNumber hc (by decide))
  · next heq => exact absurd (List.cons.inj heq).1 (ne_of_startsNumber hc (by decide))
  · next heq => exact absurd (List.cons.inj heq).1 (ne_of_startsNumber hc (by decide))
  · next heq => exact absurd (List.cons.inj heq).1 (ne_of_startsNumber hc (by decide))
  · next heq => exact absurd (List.cons.inj heq).1 (ne_of_startsNumber hc (by decide))
  · next heq => exact absurd (List.cons.inj heq).1 (ne_of_startsNumber hc (by decide))
  · rw [hread]
    rfl

theorem readValue_string (s : String) : readValue (fuel + 1) depth (writeString s ++ rest) = some (.str s, rest) := by
  obtain ⟨text, htext, hread⟩ := readString_writeString s rest
  rw [htext, readValue, skipSpace_cons rfl]
  simp [hread]

/-! ### One step of a row -/

theorem readValue_bracket {c : Char} {cs : List Char} (hspace : isSpace c = false) (hbracket : c ≠ ']') :
    readValue (fuel + 1) (depth + 1) ('[' :: c :: cs) = readItems fuel depth [] (c :: cs) := by
  rw [readValue, skipSpace_cons rfl]
  simp only [skipSpace_cons hspace]
  rw [if_neg (Nat.succ_ne_zero depth)]
  split
  · next heq => exact absurd (List.cons.inj heq).1 hbracket
  · rfl

theorem readValue_brace {cs : List Char} :
    readValue (fuel + 1) (depth + 1) ('\x7b' :: '"' :: cs) = readFields fuel depth [] ('"' :: cs) := by
  rw [readValue, skipSpace_cons rfl]
  simp [skipSpace_cons, isSpace]

theorem readItems_last {cs : List Char} {v : Json} {acc : List Json}
    (h : readValue fuel depth cs = some (v, ']' :: rest)) :
    readItems (fuel + 1) depth acc cs = some (.arr (acc.reverse ++ [v]), rest) := by
  rw [readItems, h]
  simp [skipSpace_cons, isSpace]

theorem readItems_next {cs more : List Char} {v : Json} {acc : List Json}
    (h : readValue fuel depth cs = some (v, ',' :: more)) :
    readItems (fuel + 1) depth acc cs = readItems fuel depth (v :: acc) more := by
  rw [readItems, h]
  simp [skipSpace_cons, isSpace]

/-- The members that were read, in order; of one name the last one stays. --/
def readObject (acc : Fields) : Json := .obj (acc.foldl (fun o f => Fields.insertNew f.1 f.2 o) [])

theorem readObject_reverse {o : Fields} (h : Fields.Increasing o) : readObject o.reverse = .obj o := by
  rw [readObject, List.foldl_reverse]
  exact congrArg Json.obj (gathered_of_increasing h)

theorem readFields_last {cs : List Char} {k : String} {v : Json} {acc : Fields}
    (h : readValue fuel depth cs = some (v, '\x7d' :: rest)) :
    readFields (fuel + 1) depth acc (writeString k ++ ':' :: cs) = some (readObject ((k, v) :: acc), rest) := by
  obtain ⟨text, htext, hread⟩ := readString_writeString k (':' :: cs)
  rw [htext, readFields, skipSpace_cons rfl]
  simp [hread, h, skipSpace_cons, isSpace, readObject]

theorem readFields_next {cs more : List Char} {k : String} {v : Json} {acc : Fields}
    (h : readValue fuel depth cs = some (v, ',' :: more)) :
    readFields (fuel + 1) depth acc (writeString k ++ ':' :: cs) = readFields fuel depth ((k, v) :: acc) more := by
  obtain ⟨text, htext, hread⟩ := readString_writeString k (':' :: cs)
  rw [htext, readFields, skipSpace_cons rfl]
  simp [hread, h, skipSpace_cons, isSpace]

end

/-! ### Rows of values -/

/-- The items of a list with its closing bracket. --/
def writeRow : List Json → List Char
  | [] => []
  | v :: rest => write v ++ writeItems rest

/-- The members of an object with its closing brace. --/
def writeMembers : List (String × Json) → List Char
  | [] => []
  | (k, v) :: rest => writeString k ++ ':' :: (write v ++ writeFields rest)

/-- No value starts with a blank or a closing bracket. --/
theorem exists_head {f : Double → Number} {v : Json} (h : v.AllDoubles (ReadAs f)) :
    ∃ c cs, write v = c :: cs ∧ isSpace c = false ∧ c ≠ ']' := by
  have number : ∀ {m : Number} {cs : List Char}, readNumber cs = some (m, []) → ∃ c cs', cs = c :: cs' ∧
      isSpace c = false ∧ c ≠ ']' := by
    intro m cs hread
    obtain ⟨c, cs', hcs, hc⟩ := head_of_readNumber hread
    exact ⟨c, cs', hcs, isSpace_of_startsNumber hc, ne_of_startsNumber hc (by decide)⟩
  match v, h with
  | .null, _ => exact ⟨_, _, rfl, rfl, by decide⟩
  | .bool true, _ => exact ⟨_, _, rfl, rfl, by decide⟩
  | .bool false, _ => exact ⟨_, _, rfl, rfl, by decide⟩
  | .num (.int n hn), _ => exact number (readNumber_int n hn)
  | .num (.double d), h => exact number h
  | .str s, _ => exact ⟨_, _, rfl, rfl, by decide⟩
  | .arr [], _ => exact ⟨_, _, rfl, rfl, by decide⟩
  | .arr (_ :: _), _ => exact ⟨_, _, rfl, rfl, by decide⟩
  | .obj [], _ => exact ⟨_, _, rfl, rfl, by decide⟩
  | .obj (_ :: _), _ => exact ⟨_, _, rfl, rfl, by decide⟩

theorem endsNumber_cons {c : Char} (h : c.isDigit = false ∧ c ≠ '.' ∧ c ≠ 'e' ∧ c ≠ 'E') (cs : List Char) :
    EndsNumber (c :: cs) := by
  intro d hd
  cases hd
  exact h

variable {f : Double → Number}

mutual

/-- A value is read from its text, whatever is behind it. --/
theorem readValue_write : ∀ (v : Json) {fuel depth : Nat} {rest : List Char}, 2 * (write v).length ≤ fuel →
    nesting v ≤ depth → v.Canonical → v.AllDoubles (ReadAs f) → EndsNumber rest →
    readValue fuel depth (write v ++ rest) = some (mapDoubles f v, rest)
  | .null, fuel + 1, depth, rest, _, _, _, _, _ => by
    simp [write, readValue, skipSpace_cons, isSpace, readWord, mapDoubles]
  | .bool true, fuel + 1, depth, rest, _, _, _, _, _ => by
    simp [write, readValue, skipSpace_cons, isSpace, readWord, mapDoubles]
  | .bool false, fuel + 1, depth, rest, _, _, _, _, _ => by
    simp [write, readValue, skipSpace_cons, isSpace, readWord, mapDoubles]
  | .num (.int n h), fuel + 1, depth, rest, _, _, _, _, hrest => readValue_number (readNumber_int n h) hrest
  | .num (.double d), fuel + 1, depth, rest, _, _, _, hd, hrest => readValue_number hd hrest
  | .str s, fuel + 1, depth, rest, _, _, _, _, _ => readValue_string s
  | .arr [], fuel + 1, depth + 1, rest, _, _, _, _, _ => by
    simp [write, readValue, skipSpace_cons, isSpace, mapDoubles, mapDoublesItems]
  | .arr (v :: items), fuel + 1, depth + 1, rest, hfuel, hdepth, hc, hd, _ => by
    obtain ⟨c, cs, hhead, hspace, hbracket⟩ := exists_head hd.1
    have htext : write (.arr (v :: items)) ++ rest = '[' :: (writeRow (v :: items) ++ rest) := by
      simp [write, writeRow]
    have hfirst : writeRow (v :: items) ++ rest = c :: (cs ++ writeItems items ++ rest) := by
      simp [writeRow, hhead]
    have hlength : 2 * (writeRow (v :: items)).length ≤ fuel := by
      simp only [write, writeRow, List.length_cons] at hfuel ⊢
      omega
    rw [htext, hfirst, readValue_bracket hspace hbracket, ← hfirst]
    exact readItems_writeRow (v :: items) nofun hlength (Nat.le_of_succ_le_succ hdepth) hc hd
  | .obj [], fuel + 1, depth + 1, rest, _, _, _, _, _ => by
    simp [write, readValue, skipSpace_cons, isSpace, mapDoubles, mapDoublesFields]
  | .obj (g :: fields), fuel + 1, depth + 1, rest, hfuel, hdepth, hc, hd, _ => by
    have htext : write (.obj (g :: fields)) ++ rest = '\x7b' :: (writeMembers (g :: fields) ++ rest) := by
      simp [write, writeMembers]
    have hfirst : ∃ cs, writeMembers (g :: fields) ++ rest = '"' :: cs := ⟨_, by simp [writeMembers, writeString]; rfl⟩
    obtain ⟨cs, hfirst⟩ := hfirst
    have hlength : 2 * (writeMembers (g :: fields)).length ≤ fuel := by
      simp only [write, writeMembers, List.length_cons] at hfuel ⊢
      omega
    rw [htext, hfirst, readValue_brace, ← hfirst, readFields_writeMembers (g :: fields) nofun hlength
      (Nat.le_of_succ_le_succ hdepth) hc.2 hd, List.append_nil, readObject_reverse (increasing_mapDoublesFields f hc.1),
      mapDoubles]
  | v, 0, _, _, hfuel, _, _, hd, _ => by
    obtain ⟨c, cs, hhead, -, -⟩ := exists_head hd
    simp [hhead] at hfuel
  | .arr _, _, 0, _, _, hdepth, _, _, _ => by simp [nesting] at hdepth
  | .obj _, _, 0, _, _, hdepth, _, _, _ => by simp [nesting] at hdepth

theorem readItems_writeRow : ∀ (items : List Json) {fuel depth : Nat} {acc : List Json} {rest : List Char}, items ≠ [] →
    2 * (writeRow items).length ≤ fuel → nestingItems items ≤ depth → CanonicalItems items →
    AllDoublesItems (ReadAs f) items →
    readItems fuel depth acc (writeRow items ++ rest) = some (.arr (acc.reverse ++ mapDoublesItems f items), rest)
  | [], _, _, _, _, h, _, _, _, _ => absurd rfl h
  | v :: items, 0, _, _, _, _, hfuel, _, _, hd => by
    obtain ⟨c, cs, hhead, -, -⟩ := exists_head hd.1
    simp [writeRow, hhead] at hfuel
  | [v], fuel + 1, depth, acc, rest, _, hfuel, hdepth, hc, hd => by
    have hlength : 2 * (write v).length ≤ fuel := by
      simp only [writeRow, writeItems, List.length_append, List.length_cons] at hfuel
      omega
    have hvalue := readValue_write v hlength (Nat.le_trans (Nat.le_max_left _ _) hdepth) hc.1 hd.1
      (endsNumber_cons (c := ']') (by decide) rest)
    have htext : writeRow [v] ++ rest = write v ++ ']' :: rest := by simp [writeRow, writeItems]
    rw [htext, readItems_last hvalue, mapDoublesItems, mapDoublesItems]
  | v :: w :: items, fuel + 1, depth, acc, rest, _, hfuel, hdepth, hc, hd => by
    have hlength : 2 * (write v).length ≤ fuel ∧ 2 * (writeRow (w :: items)).length ≤ fuel := by
      simp only [writeRow, writeItems, List.length_append, List.length_cons] at hfuel ⊢
      omega
    have hvalue := readValue_write v hlength.1 (Nat.le_trans (Nat.le_max_left _ _) hdepth) hc.1 hd.1
      (endsNumber_cons (c := ',') (by decide) (writeRow (w :: items) ++ rest))
    have htext : writeRow (v :: w :: items) ++ rest = write v ++ ',' :: (writeRow (w :: items) ++ rest) := by
      simp [writeRow, writeItems]
    rw [htext, readItems_next hvalue, readItems_writeRow (w :: items) nofun hlength.2
      (Nat.le_trans (Nat.le_max_right _ _) hdepth) hc.2 hd.2, List.reverse_cons, List.append_assoc]
    rfl

theorem readFields_writeMembers : ∀ (o : List (String × Json)) {fuel depth : Nat} {acc : Fields} {rest : List Char},
    o ≠ [] → 2 * (writeMembers o).length ≤ fuel → nestingFields o ≤ depth → CanonicalFields o →
    AllDoublesFields (ReadAs f) o →
    readFields fuel depth acc (writeMembers o ++ rest) = some (readObject ((mapDoublesFields f o).reverse ++ acc), rest)
  | [], _, _, _, _, h, _, _, _, _ => absurd rfl h
  | (k, v) :: o, 0, _, _, _, _, hfuel, _, _, hd => by
    simp [writeMembers, writeString] at hfuel
  | [(k, v)], fuel + 1, depth, acc, rest, _, hfuel, hdepth, hc, hd => by
    have hlength : 2 * (write v).length ≤ fuel := by
      simp only [writeMembers, writeFields, List.length_append, List.length_cons] at hfuel
      omega
    have hvalue := readValue_write v hlength (Nat.le_trans (Nat.le_max_left _ _) hdepth) hc.1 hd.1
      (endsNumber_cons (c := '\x7d') (by decide) rest)
    have htext : writeMembers [(k, v)] ++ rest = writeString k ++ ':' :: (write v ++ '\x7d' :: rest) := by
      simp [writeMembers, writeFields]
    rw [htext, readFields_last hvalue, mapDoublesFields, mapDoublesFields]
    rfl
  | (k, v) :: g :: o, fuel + 1, depth, acc, rest, _, hfuel, hdepth, hc, hd => by
    have hlength : 2 * (write v).length ≤ fuel ∧ 2 * (writeMembers (g :: o)).length ≤ fuel := by
      simp only [writeMembers, writeFields, List.length_append, List.length_cons] at hfuel ⊢
      omega
    have hvalue := readValue_write v hlength.1 (Nat.le_trans (Nat.le_max_left _ _) hdepth) hc.1 hd.1
      (endsNumber_cons (c := ',') (by decide) (writeMembers (g :: o) ++ rest))
    have htext : writeMembers ((k, v) :: g :: o) ++ rest =
        writeString k ++ ':' :: (write v ++ ',' :: (writeMembers (g :: o) ++ rest)) := by
      simp [writeMembers, writeFields]
    have hrow : mapDoublesFields f ((k, v) :: g :: o) = (k, mapDoubles f v) :: mapDoublesFields f (g :: o) := rfl
    rw [htext, readFields_next hvalue, readFields_writeMembers (g :: o) nofun hlength.2
      (Nat.le_trans (Nat.le_max_right _ _) hdepth) hc.2 hd.2, hrow, List.reverse_cons, List.append_assoc]
    rfl

end

/-- A text is read as the value that was written, where each double is what its own text is read as. --/
theorem parseWithin?_render {v : Json} {depth : Nat} (hdepth : nesting v ≤ depth) (hc : v.Canonical)
    (hd : v.AllDoubles (ReadAs f)) : parseWithin? depth v.render = some (mapDoubles f v) := by
  have htext : v.render.toList = write v := String.toList_ofList
  have hlength : v.render.length = (write v).length := by rw [← String.length_toList, htext]
  have hread : readValue (2 * v.render.length + 2) depth (write v ++ []) = some (mapDoubles f v, []) :=
    readValue_write v (by omega) hdepth hc hd nofun
  rw [List.append_nil, ← htext] at hread
  rw [parseWithin?, hread]
  rfl

/-- A text of whole numbers only is read as the value that was written. --/
theorem parseWithin?_render_whole {v : Json} {depth : Nat} (hdepth : nesting v ≤ depth) (hc : v.Canonical)
    (hd : v.AllDoubles (fun _ => False)) : parseWithin? depth v.render = some v := by
  have hread := parseWithin?_render (f := .double) hdepth hc (hd.mono fun _ h => h.elim)
  rwa [mapDoubles_eq_self _ hd] at hread

end Json
end AnsibleStaging
