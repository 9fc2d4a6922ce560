/-
Text as UTF-8 and back.

The bytes of a text are kept as a list, and reading them back goes through an
array. `toList_eq` bridges the two; what is left then is the law of the encoding
itself, and that bytes are blank throughout only if the characters are.
-/
import PaneWatch.Text.Blank
import PaneWatch.Value.Plain

namespace PaneWatch.Text

-- ===================================================== lists of bytes

private theorem toList_loop_eq (bytes : ByteArray) (i : Nat) (before : List UInt8) :
    ByteArray.toList.loop bytes i before = before.reverse ++ bytes.data.toList.drop i := by
  fun_induction ByteArray.toList.loop bytes i before with
  | case1 i before hlt ih =>
      have hi : i < bytes.data.size := hlt
      have hget : bytes.get! i = bytes.data[i] := getElem!_pos bytes.data i hi
      rw [ih, hget, List.reverse_cons, List.append_assoc, List.singleton_append,
        ← Array.getElem_toList hi, ← List.drop_eq_getElem_cons]
  | case2 i before hge =>
      have hle : bytes.data.toList.length ≤ i := Nat.le_of_not_lt hge
      rw [List.drop_of_length_le hle, List.append_nil]

/-- The bytes of an array as a list are those of the array. -/
theorem toList_eq (bytes : ByteArray) : bytes.toList = bytes.data.toList := by
  rw [ByteArray.toList, toList_loop_eq]
  simp

-- ===================================================== reading back

/-- A text is read back from its bytes. -/
theorem utf8?_toUTF8 (text : String) : Value.utf8? text.toUTF8.toList = some text := by
  rw [toList_eq, Value.utf8?]
  show String.fromUTF8? text.toByteArray = some text
  rw [String.fromUTF8?, dif_pos text.isValidUTF8]
  rfl

-- ===================================================== ASCII

private theorem utf8Encode_ascii {c : Char} (h : c.utf8Size = 1) :
    [c].utf8Encode.data.toList = [c.val.toUInt8] := by
  rw [List.utf8Encode_singleton, String.utf8EncodeChar_eq_singleton h]
  simp

/-- An ASCII character stands in the bytes of a text as it is. -/
theorem mem_toUTF8 {text : String} {c : Char} (h : c ∈ text.toList) (hsize : c.utf8Size = 1) :
    c.val.toUInt8 ∈ text.toUTF8.toList := by
  obtain ⟨before, after, htext⟩ := List.append_of_mem h
  rw [toList_eq, String.toUTF8_eq_toByteArray, ← String.utf8Encode_toList, htext,
    List.utf8Encode_append, List.utf8Encode_cons, ByteArray.toList_data_append,
    ByteArray.toList_data_append, utf8Encode_ascii hsize]
  simp

private theorem utf8Size_of_lt {c : Char} (h : c.toNat < 0x80) : c.utf8Size = 1 := by
  have hval : c.val ≤ 0x7F := by
    rw [UInt32.le_iff_toNat_le]
    exact Nat.lt_succ_iff.1 h
  exact if_pos hval

/-- The bytes of ASCII text are its characters. -/
theorem toList_toUTF8_of_ascii {cs : List Char} (h : ∀ c ∈ cs, c.toNat < 0x80) :
    (String.ofList cs).toUTF8.toList = cs.map (·.val.toUInt8) := by
  have hencode : (String.ofList cs).toUTF8.toList = cs.utf8Encode.data.toList := by
    rw [toList_eq, String.toUTF8_eq_toByteArray, ← String.utf8Encode_toList, String.toList_ofList]
  rw [hencode]
  clear hencode
  induction cs with
  | nil => rfl
  | cons c cs ih =>
      have hc := utf8Size_of_lt (h c List.mem_cons_self)
      rw [List.utf8Encode_cons, ByteArray.toList_data_append, utf8Encode_ascii hc,
        ih fun d hd => h d (List.mem_cons_of_mem c hd)]
      rfl

end PaneWatch.Text
