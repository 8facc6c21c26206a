import Mathlib
import WasmLua.Wasm.Op

namespace WasmLua.Wasm

open List

def little : List UInt8 → Nat
  | [] => 0
  | byte :: rest => byte.toNat + 256 * little rest

def littleBytes : Nat → Nat → List UInt8
  | 0, _ => []
  | width + 1, value => UInt8.ofNat value :: littleBytes width (value / 256)

def unsigned (value : Int) : Nat := (value % 2 ^ 32).toNat

def splice (start : Nat) (new bytes : List UInt8) : List UInt8 := bytes.take start ++ new ++ bytes.drop (start + new.length)

structure Linear where
  pages : Nat
  limit : Nat
  bytes : List UInt8
  sized : bytes.length = pages * pageSize
  bounded : pages ≤ limit
  addressable : limit ≤ 65536

namespace Linear

def zeros (pages limit : Nat) (bounded : pages ≤ limit) (addressable : limit ≤ 65536) : Linear where
  pages := pages
  limit := limit
  bytes := replicate (pages * pageSize) 0
  sized := length_replicate
  bounded := bounded
  addressable := addressable

def read? (image : Linear) (start width : Nat) : Option (List UInt8) :=
  if start + width ≤ image.bytes.length then some ((image.bytes.drop start).take width) else none

def write? (image : Linear) (start : Nat) (new : List UInt8) : Option Linear :=
  if fits : start + new.length ≤ image.bytes.length then
    some { image with
      bytes := splice start new image.bytes
      sized := by
        rw [← image.sized, splice]
        simp only [length_append, length_take, length_drop]
        omega }
  else none

def grow? (image : Linear) (delta : Nat) : Option Linear :=
  if fits : image.pages + delta ≤ image.limit then
    some { image with
      pages := image.pages + delta
      bytes := image.bytes ++ replicate (delta * pageSize) 0
      sized := by
        rw [length_append, length_replicate, image.sized, Nat.add_mul]
      bounded := fits }
  else none

lemma length_le (image : Linear) : image.bytes.length ≤ 2 ^ 32 := by
  have bounded := image.bounded
  have addressable := image.addressable
  rw [image.sized, pageSize]
  omega

end Linear

def NumType.bits : NumType → Nat
  | .int .i32 => 32
  | .int .i64 => 64
  | .float .f32 => 32
  | .float .f64 => 64

def Width.bytes : Width → Nat
  | .w8 => 1
  | .w16 => 2
  | .w32 => 4

namespace Load

def type : Load → NumType
  | .full type => type
  | .narrow type _ _ => .int type

def width : Load → Nat
  | .full type => type.bits / 8
  | .narrow _ width _ => width.bytes

def word (access : Load) (bytes : List UInt8) : BitVec access.type.bits :=
  match access with
  | .full _ => BitVec.ofNat _ (little bytes)
  | .narrow _ _ .unsigned => BitVec.ofNat _ (little bytes)
  | .narrow _ width .signed => (BitVec.ofNat (8 * width.bytes) (little bytes)).signExtend _

end Load

namespace Store

def type : Store → NumType
  | .full type => type
  | .narrow type _ => .int type

def width : Store → Nat
  | .full type => type.bits / 8
  | .narrow _ width => width.bytes

end Store

lemma unsigned_lt (value : Int) : unsigned value < 2 ^ 32 := by
  rw [unsigned]
  omega

lemma unsigned_cast {value : Int} : (unsigned value : Int) = value % 2 ^ 32 := by
  rw [unsigned]
  omega

lemma little_bytes_length {width : Nat} (value : Nat) : (littleBytes width value).length = width := by
  induction width generalizing value with
  | zero => rfl
  | succ width ih => rw [littleBytes, length_cons, ih]

lemma little_lt (bytes : List UInt8) : little bytes < 256 ^ bytes.length := by
  induction bytes with
  | nil => decide
  | cons byte rest ih =>
    have low := byte.toNat_lt
    rw [little, length_cons, Nat.pow_succ]
    omega

lemma splice_content {start : Nat} {new bytes : List UInt8} (index : Nat)
    (fits : start + new.length ≤ bytes.length) : (splice start new bytes).getD index 0
      = if start ≤ index ∧ index < start + new.length then new.getD (index - start) 0
        else bytes.getD index 0 := by
  have left : (bytes.take start).length = start := by
    rw [length_take]
    omega
  simp only [splice, getD_eq_getElem?_getD]
  rw [append_assoc]
  by_cases before : index < start
  · rw [if_neg (by omega), getElem?_append_left (by omega), getElem?_take_of_lt before]
  · rw [getElem?_append_right (by omega), left]
    by_cases inside : index < start + new.length
    · rw [if_pos (by omega), getElem?_append_left (by omega)]
    · rw [if_neg (by omega), getElem?_append_right (by omega), getElem?_drop]
      congr 2
      omega

end WasmLua.Wasm
