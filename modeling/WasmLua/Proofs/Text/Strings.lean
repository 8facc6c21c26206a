import Mathlib
import WasmLua.Text.Bytes

namespace WasmLua.Bytes

open ByteArray

lemma loop_list {bytes : ByteArray} {index : Nat} {taken : List UInt8} :
    toList.loop bytes index taken = taken.reverse ++ bytes.data.toList.drop index := by
  fun_induction toList.loop bytes index taken with
  | case1 index taken inside ih =>
    have bound : index < bytes.data.toList.length := inside
    rw [ih, List.drop_eq_getElem_cons bound, List.reverse_cons, List.append_assoc, List.singleton_append]
    congr 2
    exact getElem!_pos bytes.data index inside
  | case2 index taken outside =>
    rw [List.drop_eq_nil_of_le (Nat.le_of_not_lt outside), List.append_nil]

lemma list_data (bytes : ByteArray) : bytes.toList = bytes.data.toList := by
  rw [toList, loop_list]
  rfl

variable {first second : String}

lemma ofString_append : ofString (first ++ second) = ofString first ++ ofString second := by
  have joined : (first ++ second).toUTF8 = first.toUTF8 ++ second.toUTF8 := ext rfl
  rw [ofString, ofString, ofString, joined, list_data, list_data, list_data, data_append, Array.toList_append]

lemma ofString_chars {text : String} : ofString text = text.toList.flatMap String.utf8EncodeChar := by
  have encoded : text.toUTF8 = text.toList.utf8Encode := by
    rw [← String.toByteArray_ofList, String.ofList_toList]
    rfl
  rw [ofString, encoded, list_data, List.utf8Encode, List.data_toByteArray]

@[simp]
lemma ofString_inj : ofString first = ofString second ↔ first = second := by
  constructor
  · intro same
    rw [ofString, ofString, list_data, list_data, Array.toList_inj] at same
    exact String.toByteArray_inj.mp (ext same)
  · rintro rfl
    rfl

@[simp]
lemma ofString_beq : (ofString first == ofString second) = (first == second) := by
  rw [Bool.eq_iff_iff, beq_iff_eq, beq_iff_eq, ofString_inj]

end WasmLua.Bytes
