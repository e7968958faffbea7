import AnsibleStaging.Url.Percent

/-! What percent encoding keeps. Reading a text takes an escape, that is a `%` with two digits, or one character at a time;
    writing it for a part of a URL puts escapes in the place of single characters and leaves the escapes alone that are
    there. So what is read from the written text is what is read from the text itself, and this is the text only if
    there is no escape in it. -/

namespace AnsibleStaging

namespace Percent

/-! ### Bytes -/

theorem toUTF8_eq (text : String) : text.toUTF8 = (bytesOf text.toList).toByteArray := by
  conv => lhs; rw [← String.ofList_toList (s := text)]
  rw [String.toUTF8_eq_toByteArray, String.toByteArray_ofList, List.utf8Encode, bytesOf]

theorem utf8EncodeChar_ascii {c : Char} (h : c.toNat < 0x80) : String.utf8EncodeChar c = [UInt8.ofNat c.toNat] := by
  unfold String.utf8EncodeChar
  exact if_pos (Nat.le_of_lt_succ h)

/-- Beyond ASCII a character has no byte that is one of ASCII. --/
theorem le_of_mem_utf8EncodeChar {c : Char} (h : ¬c.toNat < 0x80) {b : UInt8} (hb : b ∈ String.utf8EncodeChar c) :
    0x80 ≤ b.toNat := by
  unfold String.utf8EncodeChar at hb
  have hv : ¬c.val.toNat ≤ 127 := fun hle => h (Nat.lt_succ_of_le hle)
  dsimp only at hb
  rw [if_neg hv] at hb
  split at hb
  · simp only [List.mem_cons, List.not_mem_nil, or_false] at hb
    rcases hb with rfl | rfl <;> rw [UInt8.toNat_ofNat'] <;> omega
  · split at hb <;> simp only [List.mem_cons, List.not_mem_nil, or_false] at hb
    · rcases hb with rfl | rfl | rfl <;> rw [UInt8.toNat_ofNat'] <;> omega
    · rcases hb with rfl | rfl | rfl | rfl <;> rw [UInt8.toNat_ofNat'] <;> omega

theorem ofNat_toNat_ascii {c : Char} (h : c.toNat < 0x80) : Char.ofNat (UInt8.ofNat c.toNat).toNat = c := by
  rw [UInt8.toNat_ofNat', Nat.mod_eq_of_lt (by omega), Char.ofNat_toNat]

theorem toNat_lt_of_value? {c : Char} (h : (Hex.value? c).isSome) : c.toNat < 0x80 := by
  unfold Hex.value? at h
  split at h
  · next hc => exact Nat.lt_of_le_of_lt (show c.toNat ≤ 57 from hc.2) (by decide)
  · split at h
    · next hc => exact Nat.lt_of_le_of_lt (show c.toNat ≤ 102 from hc.2) (by decide)
    · split at h
      · next hc => exact Nat.lt_of_le_of_lt (show c.toNat ≤ 70 from hc.2) (by decide)
      · cases h

theorem toNat_ofNat_byte (b : UInt8) : (Char.ofNat b.toNat).toNat = b.toNat := by
  have valid : b.toNat.isValidChar := Or.inl (Nat.lt_trans b.toNat_lt (by decide))
  unfold Char.ofNat
  rw [dif_pos valid]
  rfl

/-- A character that is no digit does not start with a byte that is one. --/
theorem value?_eq_none_of_head {c : Char} (h : Hex.value? c = none) {b : UInt8} {after : List UInt8}
    (hb : String.utf8EncodeChar c = b :: after) : Hex.value? (Char.ofNat b.toNat) = none := by
  by_cases hc : c.toNat < 0x80
  · rw [utf8EncodeChar_ascii hc] at hb
    cases hb
    rwa [ofNat_toNat_ascii hc]
  · have hle := le_of_mem_utf8EncodeChar hc (hb ▸ List.mem_cons_self : b ∈ String.utf8EncodeChar c)
    refine Option.not_isSome_iff_eq_none.mp fun hsome => ?_
    have := toNat_lt_of_value? hsome
    rw [toNat_ofNat_byte] at this
    omega

/-! ### Escapes -/

/-- The byte of the escape that a row of characters starts with, and what follows it. --/
def escape? : List Char → Option (UInt8 × List Char)
  | '%' :: a :: b :: rest =>
    match Hex.value? a, Hex.value? b with
    | some high, some low => some (UInt8.ofNat (high * 16 + low), rest)
    | _, _ => none
  | _ => none

/-- Whether an escape stands anywhere in a row of characters. --/
def hasEscape : List Char → Bool
  | [] => false
  | c :: rest => (escape? (c :: rest)).isSome || hasEscape rest

theorem eq_of_escape? {cs rest : List Char} {byte : UInt8} (h : escape? cs = some (byte, rest)) :
    ∃ a b high low, cs = '%' :: a :: b :: rest ∧ Hex.value? a = some high ∧ Hex.value? b = some low ∧
      byte = UInt8.ofNat (high * 16 + low) := by
  unfold escape? at h
  split at h
  · next a b after =>
    split at h
    · next high low ha hb =>
      cases h
      exact ⟨a, b, high, low, rfl, ha, hb, rfl⟩
    · cases h
  · cases h

theorem escape?_digits {a b : Char} {high low : Nat} (ha : Hex.value? a = some high) (hb : Hex.value? b = some low)
    (rest : List Char) : escape? ('%' :: a :: b :: rest) = some (UInt8.ofNat (high * 16 + low), rest) := by
  rw [escape?, ha, hb]

theorem escape?_of_ne {c : Char} (h : c ≠ '%') (rest : List Char) : escape? (c :: rest) = none := by
  unfold escape?
  split
  · next heq => exact absurd (List.cons.inj heq).1 h
  · rfl

theorem length_lt_of_escape? {cs rest : List Char} {byte : UInt8} (h : escape? cs = some (byte, rest)) :
    rest.length < cs.length := by
  obtain ⟨a, b, high, low, rfl, -⟩ := eq_of_escape? h
  simp only [List.length_cons]
  omega

/-- The bytes that a row of characters stands for, where an escape stands for its byte. --/
def unescape : List Char → List UInt8
  | [] => []
  | c :: rest =>
    match _h : escape? (c :: rest) with
    | some (byte, after) => byte :: unescape after
    | none => String.utf8EncodeChar c ++ unescape rest
termination_by cs => cs.length
decreasing_by
  · exact length_lt_of_escape? _h
  · exact Nat.lt_succ_self _

theorem unescape_of_escape? {cs rest : List Char} {byte : UInt8} (h : escape? cs = some (byte, rest)) :
    unescape cs = byte :: unescape rest := by
  obtain ⟨a, b, high, low, rfl, -⟩ := eq_of_escape? h
  rw [unescape]
  split
  · next heq =>
    rw [heq] at h
    cases h
    rfl
  · next heq =>
    rw [heq] at h
    cases h

theorem unescape_plain {c : Char} {rest : List Char} (h : escape? (c :: rest) = none) :
    unescape (c :: rest) = String.utf8EncodeChar c ++ unescape rest := by
  rw [unescape]
  split
  · next heq =>
    rw [heq] at h
    cases h
  · rfl

/-! ### Reading bytes -/

theorem decodeBytes_cons_of_ne {b : UInt8} (h : b ≠ 0x25) (rest : List UInt8) :
    decodeBytes (b :: rest) = b :: decodeBytes rest := by
  match rest with
  | [] => rfl
  | [_] => rfl
  | x :: y :: rest => rw [decodeBytes, if_neg h]

theorem decodeBytes_append_of_ne {l : List UInt8} (h : ∀ b ∈ l, b ≠ 0x25) (rest : List UInt8) :
    decodeBytes (l ++ rest) = l ++ decodeBytes rest := by
  induction l with
  | nil => rfl
  | cons b l ih =>
    obtain ⟨hb, hl⟩ := List.forall_mem_cons.mp h
    rw [List.cons_append, decodeBytes_cons_of_ne hb, ih hl, List.cons_append]

/-- A sign whose first byte is no digit stands for itself. --/
theorem decodeBytes_sign_first {x : UInt8} (h : Hex.value? (Char.ofNat x.toNat) = none) (rest : List UInt8) :
    decodeBytes (0x25 :: x :: rest) = 0x25 :: decodeBytes (x :: rest) := by
  match rest with
  | [] => rfl
  | y :: rest => rw [decodeBytes, if_pos rfl, h]

/-- A sign whose second byte is no digit stands for itself. --/
theorem decodeBytes_sign_second {x y : UInt8} (h : Hex.value? (Char.ofNat y.toNat) = none) (rest : List UInt8) :
    decodeBytes (0x25 :: x :: y :: rest) = 0x25 :: decodeBytes (x :: y :: rest) := by
  rw [decodeBytes, if_pos rfl, h]
  split
  · next heq => cases heq
  · rfl

theorem ne_sign_of_mem {c : Char} (hc : c ≠ '%') {b : UInt8} (hb : b ∈ String.utf8EncodeChar c) : b ≠ 0x25 := by
  rintro rfl
  by_cases hlt : c.toNat < 0x80
  · rw [utf8EncodeChar_ascii hlt, List.mem_singleton] at hb
    exact hc ((ofNat_toNat_ascii hlt).symm.trans (by rw [← hb]; rfl))
  · exact absurd (le_of_mem_utf8EncodeChar hlt hb) (by decide)

theorem exists_head_utf8EncodeChar (c : Char) : ∃ b after, String.utf8EncodeChar c = b :: after := by
  cases h : String.utf8EncodeChar c with
  | nil => exact absurd h String.utf8EncodeChar_ne_nil
  | cons b after => exact ⟨b, after, rfl⟩

theorem decodeBytes_plain {c : Char} {rest : List Char} (h : escape? (c :: rest) = none) :
    decodeBytes (bytesOf (c :: rest)) = String.utf8EncodeChar c ++ decodeBytes (bytesOf rest) := by
  rw [bytesOf, List.flatMap_cons]
  by_cases hc : c = '%'
  · subst hc
    rw [utf8EncodeChar_ascii (by decide)]
    match rest with
    | [] => rfl
    | a :: rest =>
      obtain ⟨x, xs, hx⟩ := exists_head_utf8EncodeChar a
      cases ha : Hex.value? a with
      | none =>
        rw [bytesOf, List.flatMap_cons, hx]
        exact decodeBytes_sign_first (value?_eq_none_of_head ha hx) _
      | some high =>
        have hlt : a.toNat < 0x80 := toNat_lt_of_value? (by rw [ha]; rfl)
        match rest with
        | [] =>
          rw [bytesOf, List.flatMap_cons, utf8EncodeChar_ascii hlt]
          rfl
        | b :: rest =>
          have hb : Hex.value? b = none := by
            cases hb : Hex.value? b with
            | none => rfl
            | some low =>
              rw [escape?_digits ha hb] at h
              cases h
          obtain ⟨y, ys, hy⟩ := exists_head_utf8EncodeChar b
          rw [bytesOf, List.flatMap_cons, List.flatMap_cons, utf8EncodeChar_ascii hlt, hy]
          exact decodeBytes_sign_second (value?_eq_none_of_head hb hy) _
  · exact decodeBytes_append_of_ne (fun b => ne_sign_of_mem hc) _

/-- Reading the bytes of a text is reading its characters. --/
theorem decodeBytes_bytesOf (cs : List Char) : decodeBytes (bytesOf cs) = unescape cs := by
  induction cs using unescape.induct with
  | case1 =>
    rw [unescape]
    rfl
  | case2 c rest byte after h ih =>
    rw [unescape_of_escape? h, ← ih]
    obtain ⟨a, b, high, low, hcs, ha, hb, rfl⟩ := eq_of_escape? h
    have hlt : ∀ {d : Char} {n : Nat}, Hex.value? d = some n → d.toNat < 0x80 :=
      fun hd => toNat_lt_of_value? (by rw [hd]; rfl)
    rw [hcs, bytesOf, List.flatMap_cons, List.flatMap_cons, List.flatMap_cons, utf8EncodeChar_ascii (hlt ha),
      utf8EncodeChar_ascii (hlt hb), utf8EncodeChar_ascii (by decide)]
    simp only [List.cons_append, List.nil_append]
    rw [decodeBytes, if_pos (by decide), ofNat_toNat_ascii (hlt ha), ofNat_toNat_ascii (hlt hb), ha, hb]
    rfl
  | case3 c rest h ih => rw [decodeBytes_plain h, unescape_plain h, ih]

/-! ### Writing -/

/-- A set of characters that leaves escapes alone. --/
def EncodeSet.KeepsEscapes (s : EncodeSet) : Prop := ∀ c, c = '%' ∨ (Hex.value? c).isSome → encodes s c = false

theorem keepsEscapes_userinfoSet : EncodeSet.KeepsEscapes userinfoSet := by
  intro c hc
  have ascii : c.toNat < 0x80 := by
    rcases hc with rfl | hc
    · decide
    · exact toNat_lt_of_value? hc
  have all : ∀ n < 0x80, Char.ofNat n = '%' ∨ (Hex.value? (Char.ofNat n)).isSome →
      encodes userinfoSet (Char.ofNat n) = false := by decide
  have := all c.toNat ascii
  rw [Char.ofNat_toNat] at this
  exact this hc

theorem encodeChars_cons (s : EncodeSet) (c : Char) (rest : List Char) :
    encodeChars s (c :: rest) = encodeChar s c ++ encodeChars s rest := List.flatMap_cons

theorem encodeChar_of_encodes {s : EncodeSet} {c : Char} (h : encodes s c = true) :
    encodeChar s c = (String.utf8EncodeChar c).flatMap encodeByte := by
  rw [encodeChar, if_pos h]

theorem encodeChar_of_not_encodes {s : EncodeSet} {c : Char} (h : encodes s c = false) : encodeChar s c = [c] := by
  rw [encodeChar, h]
  rfl

theorem value?_sign : Hex.value? '%' = none := by decide

/-- What is written starts with the character itself or with the sign of an escape. --/
theorem head_encodeChars (s : EncodeSet) (c : Char) (rest : List Char) :
    (encodes s c = false ∧ encodeChars s (c :: rest) = c :: encodeChars s rest) ∨
      ∃ after, encodeChars s (c :: rest) = '%' :: after := by
  cases h : encodes s c with
  | false => exact Or.inl ⟨rfl, by rw [encodeChars_cons, encodeChar_of_not_encodes h]; rfl⟩
  | true =>
    obtain ⟨b, after, hb⟩ := exists_head_utf8EncodeChar c
    exact Or.inr ⟨_, by rw [encodeChars_cons, encodeChar_of_encodes h, hb, List.flatMap_cons]; rfl⟩

theorem escape?_sign_of_first {a : Char} (ha : Hex.value? a = none) (rest : List Char) :
    escape? ('%' :: a :: rest) = none := by
  match rest with
  | [] => rfl
  | b :: rest => rw [escape?, ha]

theorem escape?_sign_of_second {a b : Char} (hb : Hex.value? b = none) (rest : List Char) :
    escape? ('%' :: a :: b :: rest) = none := by
  rw [escape?, hb]
  split
  · next heq => cases heq
  · rfl

/-- Writing makes no escape of a sign that stood for itself. --/
theorem escape?_encodeChars {s : EncodeSet} {c : Char} {rest : List Char} (h : escape? (c :: rest) = none) :
    escape? (c :: encodeChars s rest) = none := by
  by_cases hc : c = '%'
  · subst hc
    match rest with
    | [] => rfl
    | a :: rest =>
      rcases head_encodeChars s a rest with ⟨-, heq⟩ | ⟨after, heq⟩
      · rw [heq]
        cases ha : Hex.value? a with
        | none => exact escape?_sign_of_first ha _
        | some high =>
          match rest with
          | [] => rfl
          | b :: rest =>
            rcases head_encodeChars s b rest with ⟨-, heq⟩ | ⟨after, heq⟩
            · rw [heq]
              refine escape?_sign_of_second ?_ _
              cases hb : Hex.value? b with
              | none => rfl
              | some low =>
                rw [escape?_digits ha hb] at h
                cases h
            · rw [heq]
              exact escape?_sign_of_second value?_sign _
      · rw [heq]
        exact escape?_sign_of_first value?_sign _
  · exact escape?_of_ne hc _

theorem unescape_encodeByte (b : UInt8) (rest : List Char) : unescape (encodeByte b ++ rest) = b :: unescape rest := by
  have hb := b.toNat_lt
  have read := escape?_digits (Hex.value?_capital (show b.toNat / 16 < 16 by omega))
    (Hex.value?_capital (Nat.mod_lt b.toNat (by decide))) rest
  rw [Nat.div_add_mod', UInt8.ofNat_toNat] at read
  exact unescape_of_escape? read

theorem unescape_flatMap_encodeByte (bytes : List UInt8) (rest : List Char) :
    unescape (bytes.flatMap encodeByte ++ rest) = bytes ++ unescape rest := by
  induction bytes with
  | nil => rfl
  | cons b bytes ih => rw [List.flatMap_cons, List.append_assoc, unescape_encodeByte, ih, List.cons_append]

/-- What is read from a written text is what is read from the text. --/
theorem unescape_encodeChars {s : EncodeSet} (hs : s.KeepsEscapes) (cs : List Char) :
    unescape (encodeChars s cs) = unescape cs := by
  induction cs using unescape.induct with
  | case1 => rfl
  | case2 c rest byte after h ih =>
    rw [unescape_of_escape? h, ← ih]
    obtain ⟨a, b, high, low, hcs, ha, hb, rfl⟩ := eq_of_escape? h
    have kept : ∀ {d : Char} {n : Nat}, Hex.value? d = some n → encodeChar s d = [d] :=
      fun hd => encodeChar_of_not_encodes (hs _ (Or.inr (by rw [hd]; rfl)))
    rw [hcs, encodeChars_cons, encodeChars_cons, encodeChars_cons, kept ha, kept hb,
      encodeChar_of_not_encodes (hs _ (Or.inl rfl))]
    exact unescape_of_escape? (escape?_digits ha hb _)
  | case3 c rest h ih =>
    rw [unescape_plain h, ← ih]
    cases hc : encodes s c with
    | true => rw [encodeChars_cons, encodeChar_of_encodes hc, unescape_flatMap_encodeByte]
    | false =>
      rw [encodeChars_cons, encodeChar_of_not_encodes hc]
      exact unescape_plain (escape?_encodeChars h)

/-! ### What is read as it stands -/

theorem length_bytesOf_cons (c : Char) (rest : List Char) :
    (bytesOf (c :: rest)).length = (String.utf8EncodeChar c).length + (bytesOf rest).length := by
  rw [bytesOf, List.flatMap_cons, List.length_append, bytesOf]

theorem length_bytesOf_lt (c : Char) (rest : List Char) : (bytesOf rest).length < (bytesOf (c :: rest)).length := by
  have := String.length_utf8EncodeChar c
  have := Char.utf8Size_pos c
  rw [length_bytesOf_cons]
  omega

/-- An escape takes more room than its byte. --/
theorem length_bytesOf_of_escape? {cs rest : List Char} {byte : UInt8} (h : escape? cs = some (byte, rest)) :
    (bytesOf rest).length + 1 < (bytesOf cs).length := by
  obtain ⟨a, b, -, -, rfl, -⟩ := eq_of_escape? h
  have h₁ := length_bytesOf_lt b rest
  have h₂ := length_bytesOf_lt a (b :: rest)
  have h₃ := length_bytesOf_lt '%' (a :: b :: rest)
  omega

theorem length_unescape_le (cs : List Char) : (unescape cs).length ≤ (bytesOf cs).length := by
  induction cs using unescape.induct with
  | case1 => rw [unescape]; exact Nat.le_refl _
  | case2 c rest byte after h ih =>
    have := length_bytesOf_of_escape? h
    rw [unescape_of_escape? h, List.length_cons]
    omega
  | case3 c rest h ih =>
    rw [unescape_plain h, length_bytesOf_cons, List.length_append]
    omega

theorem length_unescape_lt {cs : List Char} (h : hasEscape cs = true) : (unescape cs).length < (bytesOf cs).length := by
  induction cs using unescape.induct with
  | case1 => cases h
  | case2 c rest byte after he ih =>
    have := length_bytesOf_of_escape? he
    have := length_unescape_le after
    rw [unescape_of_escape? he, List.length_cons]
    omega
  | case3 c rest he ih =>
    rw [hasEscape, he, Option.isSome_none, Bool.false_or] at h
    have := ih h
    rw [unescape_plain he, length_bytesOf_cons, List.length_append]
    omega

/-- A row of characters is read as it stands if and only if no escape stands in it. --/
theorem unescape_eq_bytesOf_iff {cs : List Char} : unescape cs = bytesOf cs ↔ hasEscape cs = false := by
  constructor
  · intro heq
    refine Bool.eq_false_iff.mpr fun h => ?_
    have := length_unescape_lt h
    rw [heq] at this
    exact absurd this (Nat.lt_irrefl _)
  · intro h
    induction cs using unescape.induct with
    | case1 => rw [unescape]; rfl
    | case2 c rest byte after he ih => rw [hasEscape, he] at h; cases h
    | case3 c rest he ih =>
      rw [hasEscape, he, Option.isSome_none, Bool.false_or] at h
      rw [unescape_plain he, ih h, bytesOf, bytesOf, List.flatMap_cons]

theorem hasEscape_eq_false {cs : List Char} (h : ∀ c ∈ cs, c ≠ '%') : hasEscape cs = false := by
  induction cs with
  | nil => rfl
  | cons c rest ih =>
    obtain ⟨hc, hrest⟩ := List.forall_mem_cons.mp h
    rw [hasEscape, escape?_of_ne hc, ih hrest]
    rfl

/-! ### Texts -/

theorem encode_ne_empty {s : EncodeSet} {text : String} (h : text ≠ "") : encode s text ≠ "" := by
  intro hempty
  rw [encode, ← String.toList_inj, String.toList_ofList] at hempty
  cases hcs : text.toList with
  | nil => exact h (String.toList_inj.mp hcs)
  | cons c rest =>
    rw [hcs] at hempty
    rcases head_encodeChars s c rest with ⟨-, heq⟩ | ⟨after, heq⟩ <;> (rw [heq] at hempty; cases hempty)

theorem decode_eq (text : String) : decode text = (unescape text.toList).toByteArray := by
  rw [decode, decodeBytes_bytesOf]

theorem decode_encode {s : EncodeSet} (hs : s.KeepsEscapes) (text : String) : decode (encode s text) = decode text := by
  rw [decode_eq, encode, String.toList_ofList, unescape_encodeChars hs, decode_eq]

theorem decode_eq_toUTF8_iff {text : String} : decode text = text.toUTF8 ↔ hasEscape text.toList = false := by
  rw [decode_eq, toUTF8_eq, ← unescape_eq_bytesOf_iff]
  constructor
  · intro h
    have := congrArg (·.data.toList) h
    simpa only [List.toList_data_toByteArray] using this
  · intro h
    rw [h]

end Percent
end AnsibleStaging
