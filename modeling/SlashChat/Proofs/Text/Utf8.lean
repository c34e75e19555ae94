import SlashChat.Text.Utf8

/-!
# Laws of the UTF-8 form

The UTF-8 form of a text is read back as the text (`decodeUtf8_toUtf8`), and a byte of one of the
first 128 characters only stands in it for that character (`char_of_mem_toUtf8`), in particular at
its end (`char_of_getLast?_toUtf8`).
-/

set_option autoImplicit false

namespace SlashChat.Text

/-- The loop over a byte array lists what it has read and then what is left. -/
theorem toList_loop_eq (bytes : ByteArray) (place : Nat) (read : List UInt8) :
    ByteArray.toList.loop bytes place read = read.reverse ++ bytes.data.toList.drop place := by
  fun_induction ByteArray.toList.loop bytes place read with
  | case1 place read hlt ih =>
    have hlength : place < bytes.data.toList.length := by simpa using hlt
    have hget : bytes.get! place = bytes.data.toList[place] := by
      show bytes.data[place]! = _
      rw [getElem!_pos bytes.data place hlt, Array.getElem_toList]
    rw [ih, List.drop_eq_getElem_cons hlength, hget, List.reverse_cons, List.append_assoc,
      List.singleton_append]
  | case2 place read hge =>
    rw [List.drop_eq_nil_of_le (by simpa using Nat.le_of_not_lt hge), List.append_nil]

/-- The bytes of a text are those that its string holds. -/
theorem toUtf8_eq_data (text : String) : toUtf8 text = text.toByteArray.data.toList := by
  rw [toUtf8, String.toUTF8_eq_toByteArray, ByteArray.toList, toList_loop_eq]
  rfl

/-- The bytes of a text are those of its characters in turn. -/
theorem toUtf8_eq_flatMap (text : String) :
    toUtf8 text = text.toList.flatMap String.utf8EncodeChar := by
  rw [toUtf8_eq_data, ← String.utf8Encode_toList, List.utf8Encode, List.data_toByteArray]

/-- The bytes of a text are read back as the text. -/
theorem ofUtf8?_toUtf8 (text : String) : ofUtf8? (toUtf8 text) = some text := by
  have hbytes : ByteArray.mk (toUtf8 text).toArray = text.toByteArray := by
    rw [toUtf8_eq_data, Array.toArray_toList]
  rw [ofUtf8?, hbytes, String.fromUTF8?, dif_pos text.isValidUTF8]
  rfl

/-- The bytes of a text are decoded without a fault. -/
theorem decodeUtf8_toUtf8 (text : String) : decodeUtf8 (toUtf8 text) = .ok text := by
  rw [decodeUtf8, ofUtf8?_toUtf8]

/-- Every byte of a character beyond the first 128 is at least 128. -/
theorem toNat_of_mem_utf8EncodeChar {c : Char} {byte : UInt8}
    (hmem : byte ∈ String.utf8EncodeChar c) (hlow : byte.toNat < 0x80) :
    c.toNat = byte.toNat := by
  have hc : c.val.toNat = c.toNat := rfl
  -- The bytes of a longer form are `n + k` for a mark `k` of at least 128, and no sum overflows.
  revert hmem
  fun_cases String.utf8EncodeChar c with
  | case1 =>
    intro hmem
    obtain rfl := List.mem_singleton.1 hmem
    rw [UInt8.toNat_ofNat']
    omega
  | case2 | case3 | case4 =>
    intro hmem
    exfalso
    simp only [List.mem_cons, List.not_mem_nil, or_false] at hmem
    rcases hmem with rfl | rfl | rfl | rfl
    all_goals
      rw [UInt8.toNat_ofNat'] at hlow
      omega

/-- A byte of seven bits among the bytes of a text is one of its characters. -/
theorem char_of_mem_toUtf8 {text : String} {byte : UInt8} (hmem : byte ∈ toUtf8 text)
    (hlow : byte.toNat < 0x80) : Char.ofNat byte.toNat ∈ text.toList := by
  rw [toUtf8_eq_flatMap] at hmem
  obtain ⟨c, hc, hbyte⟩ := List.mem_flatMap.1 hmem
  rw [← toNat_of_mem_utf8EncodeChar hbyte hlow, Char.ofNat_toNat]
  exact hc

/-- A last byte of seven bits is the last character. -/
theorem char_of_getLast?_toUtf8 {text : String} {byte : UInt8}
    (hlast : (toUtf8 text).getLast? = some byte) (hlow : byte.toNat < 0x80) :
    text.toList.getLast? = some (Char.ofNat byte.toNat) := by
  rw [toUtf8_eq_flatMap] at hlast
  obtain hnil | ⟨init, c, hconcat⟩ := text.toList.eq_nil_or_concat
  · rw [hnil] at hlast
    cases hlast
  · rw [List.concat_eq_append] at hconcat
    rw [hconcat, List.flatMap_append, List.flatMap_singleton, List.getLast?_append,
      List.getLast?_eq_some_getLast String.utf8EncodeChar_ne_nil, Option.some_or] at hlast
    have hbyte : byte ∈ String.utf8EncodeChar c := by
      rw [← Option.some.inj hlast]
      exact List.getLast_mem _
    rw [hconcat, List.getLast?_concat, ← toNat_of_mem_utf8EncodeChar hbyte hlow, Char.ofNat_toNat]

end SlashChat.Text
