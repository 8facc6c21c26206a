import WasmLua.Proofs.Memory.Content
import WasmLua.Proofs.Number.Patterns

namespace WasmLua.Exec

open Nat
open Int
open Except (ok)
open Number Conversion Made Format BitVec
open Wasm (little littleBytes NumType)

def Value.ofWord (type : NumType) (identity : Nat) (word : BitVec type.bits) : Value :=
  match type with
  | .int .i32 => .ofInt word.toInt
  | .int .i64 => .pair identity (.ofInt (word.toNat % 2 ^ 32 : Nat)) (.ofInt (word.toNat / 2 ^ 32 : Nat))
  | .float .f32 => .number (binary32.decode word.toNat)
  | .float .f64 => .number (binary64.decode word.toNat)

def Made.ofWord (type : NumType) (word : BitVec type.bits) : Made :=
  match type with
  | .int .i64 => .fresh (.ofInt (word.toNat % 2 ^ 32 : Nat)) (.ofInt (word.toNat / 2 ^ 32 : Nat))
  | .int .i32 => .held (.ofWord (.int .i32) 0 word)
  | .float type => .held (.ofWord (.float type) 0 word)

def storedBits : (type : NumType) → BitVec type.bits → Nat
  | .int _, word => word.toNat
  | .float .f32, word => binary32.canonical word.toNat
  | .float .f64, word => binary64.canonical word.toNat

def storedBytes (access : Wasm.Store) (word : BitVec access.type.bits) : Bytes :=
  littleBytes access.width (storedBits access.type word)

namespace Memory

def start (address : Int) (offset : UInt32) : Nat := Wasm.unsigned address + offset.toNat

lemma effective_int {address : Int} {offset : UInt32} : effective (ofInt address) offset = .ofInt (start address offset) := by
  have inside := Wasm.unsigned_lt address
  have small := offset.toNat_lt
  rw [effective, unsigned_int, ← Wasm.unsigned_cast]
  change ofInt _ + ofInt _ = _
  rw [add_int _ (by omega), start, Nat.cast_add]

lemma start_lt (address : Int) (offset : UInt32) : start address offset < 2 ^ 33 := by
  have inside := Wasm.unsigned_lt address
  have small := offset.toNat_lt
  rw [start]
  omega

variable {size width bits value word : Nat} {address : Int} {offset : UInt32} {α : Type} {sign : Wasm.Sign} {bytes : Bytes}

lemma refused_int {refused passed : α} {reach : Int} : (if (ofInt size).lt (.ofInt reach) = true then refused else passed)
      = if reach ≤ size then passed else refused := by
  rw [lt_int]
  by_cases fits : reach ≤ size
  · rw [if_pos fits, decide_eq_false (by omega), if_neg Bool.false_ne_true]
  · rw [if_neg fits, decide_eq_true (by omega), if_pos rfl]

lemma place_int (few : width ≤ 8) : place (.ofInt size) (.ofInt address) offset width =
      if start address offset + width ≤ size then .ok (.ofInt (start address offset))
      else .error (.trap .outOfBoundsMemory) := by
  have small := start_lt address offset
  rw [place, effective_int, add_int _ (by omega), refused_int]
  exact if_congr (by omega) rfl rfl

lemma error_bind {β : Type} {fault : Fault} {next : α → Except Fault β} : (Except.error fault >>= next) = .error fault := by
  simp only [bind, Except.bind]

lemma at_place {width : Nat} (few : width ≤ 8) {next : Number → Except Fault α} {result : α}
    (done : start address offset + width ≤ size → next (.ofInt (start address offset)) = .ok result) :
    (place (.ofInt size) (.ofInt address) offset width >>= next) =
      if start address offset + width ≤ size then .ok result
      else .error (.trap .outOfBoundsMemory) := by
  rw [place_int few]
  split
  · rename_i fits
    rw [ok_bind, done fits]
  · rw [error_bind]

section Reading

variable {memory : Memory} {size : Nat} {content : Nat → UInt8} (shows : Shows memory size content) (small : size ≤ 2 ^ 32)

include shows small in
lemma byte_at (start index : Nat) (inside : start + index < size) :
    memory.byteAt (.ofInt start) index = .ofInt (content (start + index)).toNat := by
  rw [byteAt]
  split
  · rename_i first
    subst first
    exact shows.byte start inside
  · rw [add_int _ (by omega)]
    exact_mod_cast shows.byte (start + index) inside

include shows small in
lemma read16_little {start : Nat} (fits : start + 2 ≤ size) :
    memory.read16 (.ofInt start) = .ofInt (little (window content start 2)) := by
  have low := (content start).toNat_lt
  have high := (content (start + 1)).toNat_lt
  rw [read16, byte_at shows small start 0 (by omega), byte_at shows small start 1 (by omega),
    mul_int (by omega), add_int _ (by rw [add_zero]; omega)]
  congr 1
  simp [window, little, List.range']
  ring

lemma join_int {b0 b1 b2 b3 : UInt8} : join (ofInt b0.toNat) (.ofInt b1.toNat) (.ofInt b2.toNat) (.ofInt b3.toNat)
      = .ofInt (little [b0, b1, b2, b3]) := by
  have := b0.toNat_lt
  have := b1.toNat_lt
  have := b2.toNat_lt
  have := b3.toNat_lt
  rw [join, arithmetic_two, arithmetic_two]
  change ofInt _ + ofInt _ * ofInt 256 + _ + _ = _
  rw [mul_int (by omega), mul_int (by omega), mul_int (by omega), add_int _ (by omega), add_int _ (by omega), add_int _ (by omega)]
  congr 1
  simp only [little]
  push_cast
  ring

include shows small in
lemma read32_little (start : Nat) (fits : start + 4 ≤ size) :
    memory.read32 (.ofInt start) = .ofInt (little (window content start 4)) := by
  rw [read32, byte_at shows small start 0 (by omega), byte_at shows small start 1 (by omega),
    byte_at shows small start 2 (by omega), byte_at shows small start 3 (by omega), join_int]
  rfl

include shows small in
lemma read64_little {start : Nat} (fits : start + 8 ≤ size) :
    memory.read64 (.ofInt start) = ⟨.ofInt (little (window content start 8) % 2 ^ 32 : Nat),
      .ofInt (little (window content start 8) / 2 ^ 32 : Nat)⟩ := by
  have low := Wasm.little_lt (window content start 4)
  have parts : little (window content start 8)
      = little (window content start 4) + 2 ^ 32 * little (window content (start + 4) 4) := by
    simp only [window, little, List.range', List.map]
    ring
  rw [window, List.length_map, List.length_range'] at low
  have upper := read32_little shows small (start + 4) (by omega)
  rw [read64, read32_little shows small start (by omega), add_int _ (by omega), parts,
    show (start : Int) + 4 = (start + 4 : Nat) by push_cast; rfl, upper,
    show (little (window content start 4) + 2 ^ 32 * little (window content (start + 4) 4)) % 2 ^ 32
      = little (window content start 4) by rw [window] at *; omega,
    show (little (window content start 4) + 2 ^ 32 * little (window content (start + 4) 4)) / 2 ^ 32
      = little (window content (start + 4) 4) by rw [window] at *; omega]

lemma window_little_lt (content : Nat → UInt8) (start width : Nat) : little (window content start width) < 256 ^ width := by
  have bound := Wasm.little_lt (window content start width)
  rwa [window, List.length_map, List.length_range'] at bound

end Reading

def extended (bits : Nat) (sign : Wasm.Sign) (value : Nat) : Int :=
  match sign with
  | .signed => (value : Int).bmod (2 ^ bits)
  | .unsigned => value

lemma signed_int (sign : Wasm.Sign) (few : bits = 8 ∨ bits = 16) (inside : value < 2 ^ bits) :
    signed bits sign (.ofInt value) = .ofInt (extended bits sign value) := by
  cases sign with
  | unsigned => rfl
  | signed =>
    rw [signed, extended, arithmetic_two, arithmetic_two, le_int]
    have turned : (if (2 : Int) ^ (bits - 1) ≤ value then (value : Int) - 2 ^ bits else value)
        = (value : Int).bmod (2 ^ bits) := by
      rw [bmod]
      rcases few with rfl | rfl <;> norm_num <;> split <;> split <;> omega
    rw [← turned]
    by_cases high : (2 : Int) ^ (bits - 1) ≤ value
    · rw [if_pos high, decide_eq_true high, if_pos rfl]
      exact sub_int (by rcases few with rfl | rfl <;> omega)
    · rw [if_neg high, decide_eq_false high, if_neg Bool.false_ne_true]

section Loading

variable {memory : Memory} {size : Nat} {content : Nat → UInt8} (shows : Shows memory size content)
  (sized : memory.size = .ofInt size) (small : size ≤ 2 ^ 32) {address : Int} {offset : UInt32}

include shows sized small in
lemma load_narrow {width : Wasm.Width} : memory.loadNarrow width sign (.ofInt address) offset =
      if start address offset + width.bytes ≤ size then
        .ok (.ofInt (extended (8 * width.bytes) sign (little (window content (start address offset) width.bytes))))
      else .error (.trap .outOfBoundsMemory) := by
  have bound := window_little_lt content (start address offset) width.bytes
  cases width with
  | w8 =>
    rw [loadNarrow, sized]
    apply at_place (by decide)
    intro fits
    have single : little (window content (start address offset) 1)
        = (content (start address offset)).toNat := by simp [window, little]
    have value := signed_int sign (.inl rfl) bound
    change signed 8 sign (.ofInt (little (window content (start address offset) 1))) = _ at value
    rw [single] at value
    rw [shows.byte _ (by omega), value]
    rfl
  | w16 =>
    rw [loadNarrow, sized]
    apply at_place (by decide)
    intro fits
    rw [read16_little shows small fits]
    exact congrArg ok (signed_int sign (.inr rfl) bound)
  | w32 =>
    rw [loadNarrow, sized]
    apply at_place (by decide)
    intro fits
    rw [read32_little shows small _ fits]
    cases sign with
    | signed => exact wrap_number
    | unsigned => rfl

end Loading

lemma made_long {word : BitVec 64} : ofWord (.int .i64) word = .fresh (.number (.ofInt (word.toNat % 2 ^ 32 : Nat)))
      (.number (.ofInt (word.toNat / 2 ^ 32 : Nat))) := rfl

lemma extend_pair {word : BitVec 64} {value : Int} (same : word.toInt = value) (low : -2 ^ 31 ≤ value) (high : value < 2 ^ 31) :
    I64.extendS (Value.number (.ofInt value)) = .ok (ofWord (.int .i64) word) := by
  have whole : (word.toNat : Int) = value % 2 ^ 64 := by
    rw [← same, toInt_eq_toNat_bmod]
    have wide := word.isLt
    have kept := bmod_emod (x := word.toNat) (m := 2 ^ 64)
    norm_num at kept wide ⊢
    omega
  rw [made_long, I64.extendS, value_int, value_lt, lt_int, ok_bind]
  by_cases negative : value < 0
  · rw [decide_eq_true negative, if_pos rfl, value_two, value_add, add_int _ (by omega), ok_bind,
      value_int, value_sub, sub_int (by omega), ok_bind]
    change ok (fresh (.number (.ofInt _)) (.number (.ofInt _))) = _
    congr 4 <;> omega
  · rw [decide_eq_false negative, if_neg Bool.false_ne_true, Numeric.plain, value_int, value_add, add_int _ (by omega), ok_bind]
    change ok (fresh (.number (.ofInt _)) (.number (.ofInt _))) = _
    congr 4 <;> omega

lemma signed_word (bits : Nat) (few : width ≤ bits) :
    ((BitVec.ofNat width value).signExtend bits).toInt = extended width .signed value := by
  rw [toInt_signExtend_of_le few, toInt_ofNat']
  rfl

lemma extended_bounds (width : Nat) (value : Nat) (few : width = 8 ∨ width = 16 ∨ width = 32) :
    -2 ^ 31 ≤ extended width .signed value ∧ extended width .signed value < 2 ^ 31 := by
  have low := le_bmod (x := value) (m := 2 ^ width) (by positivity)
  have high := bmod_lt (x := value) (m := 2 ^ width) (by positivity)
  rw [extended]
  rcases few with rfl | rfl | rfl <;> norm_num at low high ⊢ <;> omega

lemma narrow_word {width : Wasm.Width} (inside : little bytes < 256 ^ width.bytes)
    (listed : Wasm.Load.narrow .i32 width sign ∈ Wasm.Load.all) : (Wasm.Load.word (.narrow .i32 width sign) bytes).toInt
      = extended (8 * width.bytes) sign (little bytes) := by
  cases sign with
  | signed => exact signed_word 32 (by cases width <;> decide)
  | unsigned =>
    change (BitVec.ofNat 32 (little bytes)).toInt = little bytes
    rw [toInt_ofNat']
    cases width with
    | w8 =>
      change little bytes < 256 at inside
      rw [bmod_eq_of_le] <;> omega
    | w16 =>
      change little bytes < 65536 at inside
      rw [bmod_eq_of_le] <;> omega
    | w32 => exact absurd listed (by decide)

lemma narrow_long {width : Wasm.Width} (sign : Wasm.Sign) (inside : little bytes < 256 ^ width.bytes) : (match sign with
      | .signed => I64.extendS (Value.number (.ofInt (extended (8 * width.bytes) sign (little bytes))))
      | .unsigned => pure (pairOf ⟨.ofInt (extended (8 * width.bytes) sign (little bytes)), .ofInt 0⟩))
      = .ok (ofWord (.int .i64) (Wasm.Load.word (.narrow .i64 width sign) bytes)) := by
  cases sign with
  | signed =>
    have bounds := extended_bounds (8 * width.bytes) (little bytes) (by cases width <;> simp [Wasm.Width.bytes])
    exact extend_pair (signed_word 64 (by cases width <;> decide)) bounds.1 bounds.2
  | unsigned =>
    have narrow : little bytes < 2 ^ 32 := inside.trans_le (by cases width <;> decide)
    change _ = ok (ofWord (.int .i64) (BitVec.ofNat 64 (little bytes)))
    rw [made_long, toNat_ofNat, mod_eq_of_lt (show little bytes < 2 ^ 64 by omega), mod_eq_of_lt narrow, div_eq_of_lt narrow]
    rfl

section Loading

variable {memory : Memory} {size : Nat} {content : Nat → UInt8} (shows : Shows memory size content)
  (sized : memory.size = .ofInt size) (small : size ≤ 2 ^ 32) (address : Int) (offset : UInt32)

include shows sized small in
lemma load_word {access : Wasm.Load} (listed : access ∈ Wasm.Load.all) :
    memory.load (.number .negZero) access (.ofInt address) offset =
      if start address offset + access.width ≤ size then
        .ok (ofWord access.type (access.word (window content (start address offset) access.width)))
      else .error (.trap .outOfBoundsMemory) := by
  cases access with
  | full type =>
    cases type with
    | int type =>
      cases type with
      | i32 =>
        rw [load, sized]
        apply at_place (by decide)
        intro fits
        rw [read32_little shows small _ fits]
        change (do return held (.number (← I32.wrap (ofInt _)))) = ok (held (.ofInt (BitVec.toInt (BitVec.ofNat 32 _))))
        rw [wrap_number, toInt_ofNat']
        rfl
      | i64 =>
        have bound : little (window content (start address offset) 8) < 2 ^ 64 := window_little_lt content _ 8
        rw [load, sized]
        apply at_place (by decide)
        intro fits
        rw [read64_little shows small fits]
        change _ = ok (ofWord (.int .i64) (BitVec.ofNat 64 (little (window content (start address offset) 8))))
        rw [made_long, toNat_ofNat, mod_eq_of_lt bound]
        rfl
    | float type =>
      cases type with
      | f32 =>
        have bound : little (window content (start address offset) 4) < 2 ^ 32 := window_little_lt content _ 4
        rw [load, sized]
        apply at_place (by decide)
        intro fits
        rw [read32_little shows small _ fits]
        change (do return held (← ofBits32 _ (Value.number (ofInt _))))
          = ok (held (.number (binary32.decode (BitVec.toNat (BitVec.ofNat 32 (little (window content (start address offset) 4)))))))
        rw [of_bits32_decode (little (window content (start address offset) 4)) (by omega), toNat_ofNat, mod_eq_of_lt bound]
        rfl
      | f64 =>
        have bound : little (window content (start address offset) 8) < 2 ^ 64 := window_little_lt content _ 8
        rw [load, sized]
        apply at_place (by decide)
        intro fits
        rw [read64_little shows small fits]
        change (do return held (← ofBits64 _ (pairOf _)))
          = ok (held (.number (binary64.decode (BitVec.toNat (BitVec.ofNat 64 (little (window content (start address offset) 8)))))))
        rw [of_bits64_decode (mod_lt _ (by decide)) (by omega) rfl, toNat_ofNat, mod_eq_of_lt bound, div_add_mod']
        rfl
  | narrow type width sign =>
    cases type with
    | i32 =>
      rw [load, load_narrow shows sized small]
      change _ = if start address offset + width.bytes ≤ size then _ else _
      split
      · rw [ok_bind]
        exact congrArg (fun value => ok (held (.ofInt value))) (narrow_word (window_little_lt content _ _) listed).symm
      · rw [error_bind]
    | i64 =>
      rw [load, load_narrow shows sized small]
      change _ = if start address offset + width.bytes ≤ size then _ else _
      split
      · rw [ok_bind]
        exact narrow_long sign (window_little_lt content _ _)
      · rw [error_bind]

end Loading

lemma byte_of_int {value : Int} : byteOf (.number (.ofInt value)) = .ok (.ofInt (UInt8.ofNat (value % 256).toNat).toNat) := by
  have rest : (value % 256) = ((UInt8.ofNat (value % 256).toNat).toNat : Int) := by
    rw [byte_value]
    omega
  rw [byteOf]
  change (do (← Numeric.mod (Value.number (.ofInt value)) (.number (.ofInt 256))).toNumber) = _
  rw [value_mod, mod_int _ _ (by decide) (by decide), ok_bind, ← rest]
  rfl

lemma number_held {value : Number} : (Value.number value).toNumber = .ok value := rfl

lemma writing_int {place : Int} {write : Memory → Memory} : writing (.ofInt place) write = .ok write := rfl

section Storing

variable (size : Nat) (address : Int) (offset : UInt32)

lemma store_narrow (width : Wasm.Width) (value : Int) :
    storeNarrow (.ofInt size) width (.ofInt address) offset (.number (.ofInt value)) =
      if start address offset + width.bytes ≤ size then
        .ok (writeFrom (.ofInt (start address offset)) 0 (littleBytes width.bytes (value % (256 ^ width.bytes : Nat)).toNat))
      else .error (.trap .outOfBoundsMemory) := by
  have small := start_lt address offset
  cases width with
  | w8 =>
    rw [storeNarrow]
    apply at_place (by decide)
    intro _
    rw [byte_of_int, ok_bind, writing_int]
    refine congrArg ok (funext fun memory => ?_)
    change _ = setByte (.ofInt (start address offset) + .ofInt (0 : Nat)) _ memory
    rw [place_first (by omega)]
    rfl
  | w16 =>
    rw [storeNarrow]
    apply at_place (by decide)
    intro _
    rw [number_held, ok_bind, writing_int]
    exact congrArg ok (funext fun memory => write16_writes memory value (by omega))
  | w32 =>
    rw [storeNarrow]
    apply at_place (by decide)
    intro _
    rw [number_held, ok_bind, writing_int, unsigned_int, ← Wasm.unsigned_cast]
    exact congrArg ok (funext fun memory =>
      write32_writes memory _ (Wasm.unsigned_lt value) (by omega))

lemma store_halves (inside : word < 2 ^ 64) (made : Made) (halves : made.halves = .ok (.number (.ofInt (word % 2 ^ 32 : Nat)),
      .number (.ofInt (word / 2 ^ 32 : Nat)))) :
    (do
      let start ← place (.ofInt size) (.ofInt address) offset 8
      let word ← wordOf made
      writing start (write64 start word)) =
      if start address offset + 8 ≤ size then
        .ok (writeFrom (.ofInt (start address offset)) 0 (littleBytes 8 word))
      else .error (.trap .outOfBoundsMemory) := by
  have small := start_lt address offset
  have both : wordOf made = .ok ⟨.ofInt (word % 2 ^ 32 : Nat), .ofInt (word / 2 ^ 32 : Nat)⟩ := by
    rw [wordOf, halves, ok_bind]
    rfl
  apply at_place (by decide)
  intro _
  rw [both, ok_bind, writing_int]
  refine congrArg ok (funext fun memory => ?_)
  rw [write64_writes memory (mod_lt _ (by decide)) (by omega) (by omega), div_add_mod']

lemma little_signed {width : Nat} (word : BitVec bits) (few : 8 * width ≤ bits) :
    littleBytes width (word.toInt % (256 ^ width : Nat)).toNat = littleBytes width word.toNat := by
  have divides : 256 ^ width ∣ 2 ^ bits := by
    rw [show 256 = 2 ^ 8 by rfl, ← pow_mul]
    exact pow_dvd_pow 2 few
  have same : word.toInt % (256 ^ width : Nat) = (word.toNat % 256 ^ width : Nat) := by
    rw [toInt_eq_toNat_bmod, natCast_mod, ← emod_emod_of_dvd _ (natCast_dvd_natCast.mpr divides), bmod_emod,
      emod_emod_of_dvd _ (natCast_dvd_natCast.mpr divides)]
  rw [same, toNat_natCast, little_bytes_mod]

lemma little_half (few : width ≤ 4) : littleBytes width (((value % 2 ^ 32 : Nat) : Int) % (256 ^ width : Nat)).toNat
      = littleBytes width value := by
  have divides : 256 ^ width ∣ 2 ^ 32 := by
    rw [show 256 = 2 ^ 8 by rfl, ← pow_mul]
    exact pow_dvd_pow 2 (by omega)
  rw [← natCast_mod, toNat_natCast, mod_mod_of_dvd _ divides, little_bytes_mod]

lemma little_wrapped : littleBytes Wasm.Width.w32.bytes
      (((value : Int).bmod (2 ^ 32)) % (256 ^ Wasm.Width.w32.bytes : Nat)).toNat = littleBytes 4 value := by
  have weight : 2 ^ 32 = 256 ^ Wasm.Width.w32.bytes := by decide
  rw [weight, bmod_emod, ← natCast_mod, toNat_natCast, little_bytes_mod]
  rfl

lemma canonical64_lt (inside : word < 2 ^ 64) : binary64.canonical word < 2 ^ 64 := by
  rw [canonical]
  split
  · decide
  · exact inside

lemma store_word {access : Wasm.Store} {identity : Nat} {word : BitVec access.type.bits} :
    Memory.store (.ofInt size) access (.ofInt address) offset (.ofWord access.type identity word) =
      if start address offset + access.width ≤ size then
        .ok (writeFrom (.ofInt (start address offset)) 0 (storedBytes access word))
      else .error (.trap .outOfBoundsMemory) := by
  cases access with
  | full type =>
    cases type with
    | int type =>
      cases type with
      | i32 =>
        have stored := store_narrow size address offset .w32 (BitVec.toInt word)
        rw [little_signed word (by decide)] at stored
        exact stored
      | i64 => exact store_halves size address offset word.isLt (.held _) rfl
    | float type =>
      cases type with
      | f32 =>
        have stored := store_narrow size address offset .w32 ((binary32.canonical (BitVec.toNat word) : Int).bmod (2 ^ 32))
        change (do
          let bits ← bits32 (Value.number (binary32.decode (BitVec.toNat word)))
          storeNarrow (.ofInt size) .w32 (.ofInt address) offset bits) = _
        rw [little_wrapped] at stored
        rw [bits32_decode word.isLt, ok_bind]
        exact stored
      | f64 =>
        change (do
          let bits : Made ← bits64 (Value.number (binary64.decode (BitVec.toNat word)))
          let start ← place (.ofInt size) (.ofInt address) offset 8
          let word ← wordOf bits
          writing start (write64 start word)) = _
        rw [bits64_decode word.isLt, ok_bind]
        exact store_halves size address offset (canonical64_lt word.isLt) _ rfl
  | narrow type width =>
    cases type with
    | i32 =>
      have stored := store_narrow size address offset width (BitVec.toInt word)
      rw [little_signed word (by cases width <;> decide)] at stored
      exact stored
    | i64 =>
      have stored := store_narrow size address offset width (BitVec.toNat word % 2 ^ 32 : Nat)
      rw [little_half (by cases width <;> decide)] at stored
      exact stored

end Storing

end Memory

end WasmLua.Exec
