import AnsibleStaging.Text.Base64

/-! Base64 loses nothing: bytes are read back from their text. Three bytes are the same bits as four digits, one or two
    last bytes leave bits of the last digit unset, and no digit looks like the padding, so the group that ends a text is
    never taken for a whole one. -/

namespace AnsibleStaging
namespace Base64

/-! ### Digits -/

theorem value?_digit {n : Nat} (h : n < 64) : value? (digit n) = some n := by
  have hall : ∀ n < 64, value? (digit n) = some n := by decide
  exact hall n h

theorem digit_ne_padding {n : Nat} (h : n < 64) : digit n ≠ '=' := by
  intro heq
  have hvalue := value?_digit h
  rw [heq] at hvalue
  cases hvalue

/-! ### Groups -/

theorem decodeChars_one {x y : Nat} (hx : x < 64) (hy : y < 64) (hbits : y % 16 = 0) :
    decodeChars [digit x, digit y, '=', '='] = some [(x * 4 + y / 16).toUInt8] := by
  rw [decodeChars, value?_digit hx, value?_digit hy]
  exact if_pos hbits

theorem decodeChars_two {x y z : Nat} (hx : x < 64) (hy : y < 64) (hz : z < 64) (hbits : z % 4 = 0) :
    decodeChars [digit x, digit y, digit z, '='] =
      some [(x * 4 + y / 16).toUInt8, (y % 16 * 16 + z / 4).toUInt8] := by
  rw [decodeChars, value?_digit hx, value?_digit hy, value?_digit hz]
  · exact if_pos hbits
  · exact digit_ne_padding hz

theorem decodeChars_three {x y z w : Nat} (hx : x < 64) (hy : y < 64) (hz : z < 64) (hw : w < 64) (rest : List Char) :
    decodeChars (digit x :: digit y :: digit z :: digit w :: rest) = (decodeChars rest).map fun more =>
      (x * 4 + y / 16).toUInt8 :: (y % 16 * 16 + z / 4).toUInt8 :: (z % 4 * 64 + w).toUInt8 :: more := by
  rw [decodeChars, value?_digit hx, value?_digit hy, value?_digit hz, value?_digit hw]
  · cases decodeChars rest <;> rfl
  · intro _ hpad
    exact absurd hpad (digit_ne_padding hw)
  · intro hpad
    exact absurd hpad (digit_ne_padding hw)

/-! ### Texts -/

theorem decodeChars_encodeBytes (l : List UInt8) : decodeChars (encodeBytes l) = some l := by
  fun_induction encodeBytes l with
  | case1 => rfl
  | case2 a =>
    have ha := a.toNat_lt
    rw [decodeChars_one (by omega) (by omega) (by omega)]
    have hfirst : a.toNat / 4 * 4 + a.toNat % 4 * 16 / 16 = a.toNat := by omega
    rw [hfirst, Nat.toUInt8_eq, UInt8.ofNat_toNat]
  | case3 a b =>
    have ha := a.toNat_lt
    have hb := b.toNat_lt
    rw [decodeChars_two (by omega) (by omega) (by omega) (by omega)]
    have hfirst : a.toNat / 4 * 4 + (a.toNat % 4 * 16 + b.toNat / 16) / 16 = a.toNat := by omega
    have hsecond : (a.toNat % 4 * 16 + b.toNat / 16) % 16 * 16 + b.toNat % 16 * 4 / 4 = b.toNat := by omega
    simp only [hfirst, hsecond, Nat.toUInt8_eq, UInt8.ofNat_toNat]
  | case4 a b c rest ih =>
    have ha := a.toNat_lt
    have hb := b.toNat_lt
    have hc := c.toNat_lt
    rw [decodeChars_three (by omega) (by omega) (by omega) (by omega), ih]
    have hfirst : a.toNat / 4 * 4 + (a.toNat % 4 * 16 + b.toNat / 16) / 16 = a.toNat := by omega
    have hsecond : (a.toNat % 4 * 16 + b.toNat / 16) % 16 * 16 + (b.toNat % 16 * 4 + c.toNat / 64) / 4 = b.toNat := by
      omega
    have hthird : (b.toNat % 16 * 4 + c.toNat / 64) % 4 * 64 + c.toNat % 64 = c.toNat := by omega
    simp only [hfirst, hsecond, hthird, Option.map_some, Nat.toUInt8_eq, UInt8.ofNat_toNat]

theorem toList_loop (bytes : ByteArray) (i : Nat) (acc : List UInt8) :
    ByteArray.toList.loop bytes i acc = acc.reverse ++ bytes.data.toList.drop i := by
  fun_induction ByteArray.toList.loop bytes i acc with
  | case1 i acc hlt ih =>
    have hlength : i < bytes.data.toList.length := hlt
    have hget : bytes.get! i = bytes.data.toList[i] := getElem!_pos bytes.data i hlt
    rw [ih, List.drop_eq_getElem_cons hlength, hget, List.reverse_cons, List.append_assoc, List.singleton_append]
  | case2 i acc hge => rw [List.drop_eq_nil_of_le (Nat.le_of_not_lt hge), List.append_nil]

theorem toByteArray_toList (bytes : ByteArray) : bytes.toList.toByteArray = bytes := by
  have hlist : bytes.toList = bytes.data.toList := toList_loop bytes 0 []
  rw [hlist]
  exact ByteArray.ext (Array.toList_inj.mp List.toList_data_toByteArray)

/-- Whatever the bytes are, their text is read as those bytes. --/
theorem decode?_encode (bytes : ByteArray) : decode? (encode bytes) = some bytes := by
  rw [decode?, encode, String.toList_ofList, decodeChars_encodeBytes, Option.map_some, toByteArray_toList]

end Base64
end AnsibleStaging
