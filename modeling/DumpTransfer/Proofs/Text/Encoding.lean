import DumpTransfer.Proofs.Text.Bytes
import DumpTransfer.Text.Utf8

/-! The bytes of a text, character by character. A character in ASCII is one byte, and each byte
of another character is too large for one in ASCII.
-/

namespace DumpTransfer

/-- Reading an array of bytes goes on with those that are left of it, by induction over them. -/
theorem toList_loop {bytes : ByteArray} (done left : List UInt8)
    (split : bytes.data.toList = done ++ left) (read : List UInt8)
    : ByteArray.toList.loop bytes done.length read = read.reverse ++ left := by
  have size : bytes.size = done.length + left.length := by
    rw [← List.length_append, ← split]
    rfl
  induction left generalizing done read with
  | nil =>
      rw [ByteArray.toList.loop, if_neg (by simp [size]), List.append_nil]
  | cons byte more ih =>
      have next : bytes.get! done.length = byte := by
        change bytes.data[done.length]! = byte
        rw [← Array.getElem!_toList, split]
        simp
      have later := ih (done ++ [byte]) (by simp [split]) (byte :: read) (by simp [size]; omega)
      rw [List.length_append, List.length_singleton] at later
      rw [ByteArray.toList.loop, if_pos (by simp [size]), next, later]
      simp

namespace Utf8

theorem encode_eq (text : Text)
    : encode text = text.flatMap String.utf8EncodeChar := by
  have bytes : (String.ofList text).toUTF8.data.toList = text.flatMap String.utf8EncodeChar :=
    List.toList_data_toByteArray
  exact toList_loop [] _ bytes []

@[simp] theorem encode_nil
    : encode [] = [] := by
  rw [encode_eq, List.flatMap_nil]

theorem encode_cons (char : Char) (rest : Text)
    : encode (char :: rest) = String.utf8EncodeChar char ++ encode rest := by
  rw [encode_eq, encode_eq, List.flatMap_cons]

theorem encode_append (first second : Text)
    : encode (first ++ second) = encode first ++ encode second := by
  rw [encode_eq, encode_eq, encode_eq, List.flatMap_append]

theorem length_encode (text : Text)
    : (encode text).length = Text.byteLength text := by
  induction text with
  | nil => rw [encode_nil, List.length_nil, Text.byteLength_nil]
  | cons char rest ih =>
      rw [encode_cons, List.length_append, String.length_utf8EncodeChar, ih, Text.byteLength_cons]

theorem utf8Size_ascii {char : Char} (ascii : char.toNat < 128)
    : char.utf8Size = 1 :=
  Char.utf8Size_eq_one_iff.mpr (UInt32.le_iff_toNat_le.mpr (Nat.le_of_lt_succ ascii))

/-- A character in ASCII is the byte of its code. -/
theorem encodeChar_ascii {char : Char} (ascii : char.toNat < 128)
    : String.utf8EncodeChar char = [char.toUInt8] :=
  String.utf8EncodeChar_eq_singleton (utf8Size_ascii ascii)

theorem encode_cons_ascii {char : Char} (ascii : char.toNat < 128) (rest : Text)
    : encode (char :: rest) = char.toUInt8 :: encode rest := by
  rw [encode_cons, encodeChar_ascii ascii, List.singleton_append]

/-- No byte of a character beyond ASCII is the byte of one in ASCII. -/
theorem le_of_mem_utf8EncodeChar {char : Char} (beyond : 128 ≤ char.toNat) {byte : UInt8}
    (member : byte ∈ String.utf8EncodeChar char)
    : 128 ≤ byte.toNat := by
  have code : char.val.toNat = char.toNat := rfl
  unfold String.utf8EncodeChar at member
  simp only [code] at member
  generalize char.toNat = number at beyond member
  rw [if_neg (by omega)] at member
  split at member
  · simp only [List.mem_cons, List.not_mem_nil, or_false] at member
    rcases member with rfl | rfl <;> simp <;> omega
  · split at member
    · simp only [List.mem_cons, List.not_mem_nil, or_false] at member
      rcases member with rfl | rfl | rfl <;> simp <;> omega
    · simp only [List.mem_cons, List.not_mem_nil, or_false] at member
      rcases member with rfl | rfl | rfl | rfl <;> simp <;> omega

/-- The byte of a character in ASCII is a byte of no other character. -/
theorem mem_utf8EncodeChar_iff {char sign : Char} (ascii : sign.toNat < 128)
    : sign.toUInt8 ∈ String.utf8EncodeChar char ↔ char = sign := by
  have signByte : sign.toUInt8.toNat = sign.toNat % 256 := rfl
  by_cases single : char.toNat < 128
  · rw [encodeChar_ascii single, List.mem_singleton]
    refine ⟨fun same => ?_, fun same => congrArg Char.toUInt8 same.symm⟩
    have charByte : char.toUInt8.toNat = char.toNat % 256 := rfl
    have codes := congrArg UInt8.toNat same
    exact Char.toNat_inj.mp (by omega)
  · refine ⟨fun member => ?_, ?_⟩
    · have le := le_of_mem_utf8EncodeChar (by omega) member
      omega
    · rintro rfl
      exact absurd ascii single

end Utf8

end DumpTransfer
