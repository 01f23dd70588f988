import QueryCache.Proofs.Codec.Reading

/-! A text is read back from its bytes: every character from the one to four bytes it is written in. -/

set_option autoImplicit false

namespace QueryCache.Text.Utf8

theorem charOf_toNat (c : Char) : charOf c.toNat = c := by
  have valid : c.toNat.isValidChar := c.valid
  rw [charOf, if_pos valid, Char.ofNat_toNat]

theorem isValidChar_toNat (c : Char) : c.toNat < 0xD800 ∨ 0xDFFF < c.toNat ∧ c.toNat < 0x110000 := c.valid

variable {halves : Bool} {position : Nat} {begun : Begun} {read : List Char} {byte : UInt8} {rest : List UInt8}

/-- The first byte of a character that has more. -/
theorem charsFrom_first {first : Range} {ranges : List Range} (fits : following? halves byte.toNat = some (first :: ranges)) :
    charsFrom halves position {} read (byte :: rest) =
      charsFrom halves (position + 1) ⟨payload byte.toNat, [byte], first :: ranges⟩ read rest := by
  rw [charsFrom]
  simp only [fits]

/-- A byte inside a character. -/
theorem charsFrom_next {least most : Nat} {next : Range} {ranges : List Range} {code : Nat} {bytes : List UInt8}
    (low : least ≤ byte.toNat) (high : byte.toNat ≤ most) :
    charsFrom halves position ⟨code, bytes, (least, most) :: next :: ranges⟩ read (byte :: rest) =
      charsFrom halves (position + 1) ⟨code * 64 + byte.toNat % 64, byte :: bytes, next :: ranges⟩ read rest := by
  rw [charsFrom]
  simp only [low, high, and_self, if_true, List.isEmpty_cons, Bool.false_eq_true, if_false]

/-- The last byte of a character. -/
theorem charsFrom_last {least most : Nat} {code : Nat} {bytes : List UInt8} (low : least ≤ byte.toNat)
    (high : byte.toNat ≤ most) :
    charsFrom halves position ⟨code, bytes, [(least, most)]⟩ read (byte :: rest) =
      charsFrom halves (position + 1) {} (charOf (code * 64 + byte.toNat % 64) :: read) rest := by
  rw [charsFrom]
  simp only [low, high, and_self, if_true, List.isEmpty_nil]

/-- The second byte of three is in the range that the first one leaves it. -/
theorem following_three (halves : Bool) {v : Nat} (low : 0x800 ≤ v) (high : v < 0x10000)
    (valid : v < 0xD800 ∨ 0xDFFF < v) : ∃ least most, following? halves (v / 4096 % 16 + 224) =
      some [(least, most), inner] ∧ least ≤ v / 64 % 64 + 128 ∧ v / 64 % 64 + 128 ≤ most := by
  unfold following?
  rw [if_neg (by omega), if_neg (by omega), if_neg (by omega)]
  split
  · exact ⟨_, _, rfl, by omega, by omega⟩
  · split
    · exact ⟨_, _, rfl, by omega, by omega⟩
    · rw [if_pos (by omega)]
      exact ⟨_, _, rfl, by omega, by omega⟩

theorem following_four (halves : Bool) {v : Nat} (low : 0x10000 ≤ v) (high : v < 0x110000) :
    ∃ least most, following? halves (v / 262144 % 8 + 240) = some [(least, most), inner, inner] ∧
      least ≤ v / 4096 % 64 + 128 ∧ v / 4096 % 64 + 128 ≤ most := by
  unfold following?
  rw [if_neg (by omega), if_neg (by omega), if_neg (by omega), if_neg (by omega), if_neg (by omega),
    if_neg (by omega)]
  split
  · exact ⟨_, _, rfl, by omega, by omega⟩
  · split
    · exact ⟨_, _, rfl, by omega, by omega⟩
    · rw [if_pos (by omega)]
      exact ⟨_, _, rfl, by omega, by omega⟩

/-- A character is read from its bytes, by how many they are. -/
theorem charsFrom_char (c : Char) :
    charsFrom halves position {} read (String.utf8EncodeChar c ++ rest) =
      charsFrom halves (position + (String.utf8EncodeChar c).length) {} (c :: read) rest := by
  have valid := isValidChar_toNat c
  have back := charOf_toNat c
  change (c.val.toNat < _ ∨ _ < c.val.toNat ∧ c.val.toNat < _) at valid
  change charOf c.val.toNat = c at back
  unfold String.utf8EncodeChar
  generalize c.val.toNat = v at valid back
  dsimp only
  have last := Bytes.toNat_ofNat (by omega : v % 64 + 128 < 256)
  have third := Bytes.toNat_ofNat (by omega : v / 64 % 64 + 128 < 256)
  have second := Bytes.toNat_ofNat (by omega : v / 4096 % 64 + 128 < 256)
  -- One, two, three or four bytes: the first says how many follow, and the payloads put the code together.
  split
  · next one =>
    have head := Bytes.toNat_ofNat (by omega : v < 256)
    rw [List.singleton_append, charsFrom]
    simp only [head, following?, (by omega : v < 0x80), if_true, back, List.length_singleton]
  split
  · next two =>
    have head := Bytes.toNat_ofNat (by omega : v / 64 % 32 + 192 < 256)
    have fits : following? halves (UInt8.ofNat (v / 64 % 32 + 192)).toNat = some [inner] := by
      rw [head, following?, if_neg (by omega), if_neg (by omega), if_pos (by omega)]
    have whole : payload (v / 64 % 32 + 192) * 64 + (v % 64 + 128) % 64 = v := by
      rw [payload, if_neg (by omega), if_pos (by omega)]
      omega
    simp only [List.cons_append, List.nil_append]
    rw [charsFrom_first fits, inner, charsFrom_last (by omega) (by omega), head, last, whole, back]
    rfl
  split
  · next three =>
    have head := Bytes.toNat_ofNat (by omega : v / 4096 % 16 + 224 < 256)
    obtain ⟨least, most, fits, low, high⟩ := following_three halves (by omega) (by omega) (by omega : v < 0xD800 ∨ _)
    rw [← head] at fits
    have whole : (payload (v / 4096 % 16 + 224) * 64 + (v / 64 % 64 + 128) % 64) * 64 + (v % 64 + 128) % 64 = v := by
      rw [payload, if_neg (by omega), if_neg (by omega), if_pos (by omega)]
      omega
    simp only [List.cons_append, List.nil_append]
    rw [charsFrom_first fits, inner, charsFrom_next (by omega) (by omega), charsFrom_last (by omega) (by omega), head,
      third, last, whole, back]
    rfl
  · next four =>
    have head := Bytes.toNat_ofNat (by omega : v / 262144 % 8 + 240 < 256)
    obtain ⟨least, most, fits, low, high⟩ := following_four halves (by omega : 0x10000 ≤ v) (by omega)
    rw [← head] at fits
    have whole : ((payload (v / 262144 % 8 + 240) * 64 + (v / 4096 % 64 + 128) % 64) * 64 +
        (v / 64 % 64 + 128) % 64) * 64 + (v % 64 + 128) % 64 = v := by
      rw [payload, if_neg (by omega), if_neg (by omega), if_neg (by omega)]
      omega
    simp only [List.cons_append, List.nil_append]
    rw [charsFrom_first fits, inner, charsFrom_next (by omega) (by omega), charsFrom_next (by omega) (by omega),
      charsFrom_last (by omega) (by omega), head, second, third, last, whole, back]
    rfl

theorem charsFrom_encode (halves : Bool) (position : Nat) (read chars : List Char) :
    charsFrom halves position {} read (chars.flatMap String.utf8EncodeChar) = .ok (read.reverse ++ chars) := by
  induction chars generalizing position read with
  | nil => simp [charsFrom]
  | cons c chars ih =>
    rw [List.flatMap_cons, charsFrom_char, ih, List.reverse_cons, List.append_assoc, List.singleton_append]

theorem toList_loop (bytes : ByteArray) (i : Nat) (read : List UInt8) :
    ByteArray.toList.loop bytes i read = read.reverse ++ bytes.data.toList.drop i := by
  fun_induction ByteArray.toList.loop bytes i read with
  | case1 i read more ih =>
    have inside : i < bytes.data.toList.length := more
    have byte : bytes.get! i = bytes.data.toList[i] := getElem!_pos bytes.data i more
    rw [ih, List.drop_eq_getElem_cons inside, byte]
    simp
  | case2 i read done =>
    have none : bytes.data.toList.drop i = [] := List.drop_eq_nil_of_le (Nat.le_of_not_lt done)
    rw [none, List.append_nil]

/-- A text comes back from its bytes. -/
theorem decode_ofString (s : String) : decode (Bytes.ofString s) = .ok s.toList := by
  have bytes : Bytes.ofString s = s.toList.flatMap String.utf8EncodeChar := by
    rw [Bytes.ofString, String.toUTF8, ByteArray.toList, toList_loop, ← String.utf8Encode_toList, List.utf8Encode,
      List.toList_data_toByteArray]
    rfl
  rw [bytes, decode, charsFrom_encode]
  rfl

end QueryCache.Text.Utf8
