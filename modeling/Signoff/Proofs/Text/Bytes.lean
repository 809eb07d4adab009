import Signoff.Bytes

namespace Signoff.Text

theorem toList_loop (bytes : ByteArray) (index : Nat) (done : List UInt8) :
    ByteArray.toList.loop bytes index done = done.reverse ++ bytes.data.toList.drop index := by
  fun_induction ByteArray.toList.loop bytes index done with
  | case1 index done hindex ih =>
      have hbound : index < bytes.data.toList.length := by simpa using hindex
      have hget : bytes.data.toList[index] = bytes.get! index := by
        simp [ByteArray.get!, hindex]
      have hdrop : bytes.data.toList.drop index =
          bytes.get! index :: bytes.data.toList.drop (index + 1) := by
        rw [List.drop_eq_getElem_cons hbound, hget]
      rw [ih, hdrop]
      simp
  | case2 index done hindex =>
      have hdone : bytes.data.toList.length ≤ index := by simpa using hindex
      rw [List.drop_of_length_le hdone, List.append_nil]

theorem bytes_eq (text : String) : bytes text = text.toByteArray.data.toList := by
  simp [bytes, ByteArray.toList, toList_loop]

theorem length_bytes (text : String) : (bytes text).length = text.utf8ByteSize := by
  simp [bytes_eq]

theorem bytes_inj {left right : String} : bytes left = bytes right ↔ left = right := by
  rw [bytes_eq, bytes_eq, Array.toList_inj, ← ByteArray.ext_iff, String.toByteArray_inj]

theorem fromUTF8?_bytes (text : String) :
    String.fromUTF8? (bytes text).toByteArray = some text := by
  have hbytes : (bytes text).toByteArray = text.toByteArray := by
    rw [bytes_eq]
    apply ByteArray.ext
    rw [List.data_toByteArray]
  rw [hbytes, String.fromUTF8?, dif_pos text.isValidUTF8]
  rfl

theorem toNat_ofNat {code : Nat} (hvalid : code.isValidChar) : (Char.ofNat code).toNat = code := by
  have hchar : Char.ofNat code = Char.ofNatAux code hvalid := dif_pos hvalid
  rw [hchar]
  rfl

def asciiChar (byte : UInt8) : Char := Char.ofNat byte.toNat

theorem asciiChar_ofNat {char : Char} (hascii : char.toNat < 0x80) :
    asciiChar (UInt8.ofNat char.toNat) = char := by
  have hsize : (UInt8.ofNat char.toNat).toNat = char.toNat :=
    UInt8.toNat_ofNat_of_lt (Nat.lt_trans hascii (by decide))
  rw [asciiChar, hsize, Char.ofNat_toNat]

theorem toNat_asciiChar (byte : UInt8) : (asciiChar byte).toNat = byte.toNat := by
  have hbyte : byte.toNat < 256 := byte.toNat_lt
  apply toNat_ofNat
  simp only [Nat.isValidChar]
  omega

theorem bytes_ofList_ascii {chars : List Char} (hascii : ∀ char ∈ chars, char.toNat < 0x80) :
    bytes (String.ofList chars) = chars.map fun char => UInt8.ofNat char.toNat := by
  rw [bytes_eq, String.toByteArray_ofList]
  induction chars with
  | nil => rfl
  | cons char rest ih =>
      obtain ⟨hchar, hrest⟩ := List.forall_mem_cons.mp hascii
      have hsize : char.utf8Size = 1 := Char.utf8Size_eq_one_iff.mpr (Nat.le_of_lt_succ hchar)
      rw [List.utf8Encode_cons, List.utf8Encode_singleton, String.utf8EncodeChar_eq_singleton hsize,
        ByteArray.data_append, Array.toList_append, ih hrest, List.toList_data_toByteArray]
      rfl

theorem utf8ByteSize_of_ascii {chars : List Char} (hascii : ∀ char ∈ chars, char.toNat < 0x80) :
    (String.ofList chars).utf8ByteSize = chars.length := by
  rw [← length_bytes, bytes_ofList_ascii hascii, List.length_map]

theorem map_asciiChar_of_chars {text : String} (hascii : ∀ char ∈ text.toList, char.toNat < 0x80) :
    (bytes text).map asciiChar = text.toList := by
  have hbytes := bytes_ofList_ascii hascii
  rw [String.ofList_toList] at hbytes
  rw [hbytes, List.map_map]
  refine (List.map_congr_left fun char hmem => ?_).trans (List.map_id _)
  exact asciiChar_ofNat (hascii char hmem)

theorem map_asciiChar_of_bytes {text : String} (hascii : ∀ byte ∈ bytes text, byte.toNat < 0x80) :
    (bytes text).map asciiChar = text.toList := by
  have hchars : ∀ char ∈ (bytes text).map asciiChar, char.toNat < 0x80 := by
    intro char hmem
    obtain ⟨byte, hbyte, rfl⟩ := List.mem_map.mp hmem
    rw [toNat_asciiChar]
    exact hascii byte hbyte
  have hsame : bytes (String.ofList ((bytes text).map asciiChar)) = bytes text := by
    rw [bytes_ofList_ascii hchars, List.map_map]
    refine (List.map_congr_left fun byte _ => ?_).trans (List.map_id _)
    rw [Function.comp_apply, toNat_asciiChar, UInt8.ofNat_toNat, id]
  rw [← bytes_inj.mp hsame, String.toList_ofList, bytes_inj.mp hsame]

end Signoff.Text
