import WasmLua.Exec.Memory
import WasmLua.Proofs.Memory.Linear
import WasmLua.Proofs.Number.Values

/-!
What a sparse memory holds. Its entries stand for bytes below its size, and a byte without an entry
is zero.
-/

namespace WasmLua.Exec.Memory

open Function
open Number List
open Wasm (little littleBytes)

/-- The entries of a memory below a size are the given bytes, and it has no others. -/
structure Shows (memory : Memory) (size : Nat) (content : Nat → UInt8) : Prop where
  stored : ∀ key value : Number, memory.data[key]? = some value →
    ∃ index, index < size ∧ key = .ofInt index ∧ value = .ofInt (content index).toNat
  absent : ∀ index : Nat, index < size → memory.data[ofInt index]? = none → content index = 0

def patched (content : Nat → UInt8) (start : Nat) (new : Bytes) : Nat → UInt8 := fun index =>
  if start ≤ index ∧ index < start + new.length then new.getD (index - start) 0 else content index

def window (content : Nat → UInt8) (start width : Nat) : Bytes := (range' start width).map content

lemma index_injective (a b : Nat) (same : ofInt a = .ofInt b) : a = b := by
  have := int_injective same
  omega

variable {content : Nat → UInt8}

variable {start : Nat}

lemma patched_nil : patched content start [] = content := by
  funext index
  rw [patched, if_neg (by simp)]

lemma patched_cons {first : UInt8} {rest : Bytes} :
    patched (update content start first) (start + 1) rest = patched content start (first :: rest) := by
  funext index
  simp only [patched, length_cons]
  by_cases here : index = start
  · subst here
    rw [if_neg (by omega), if_pos (by omega), Nat.sub_self, update_self, getD_cons_zero]
  · by_cases inside : start + 1 ≤ index ∧ index < start + 1 + rest.length
    · rw [if_pos inside, if_pos (by omega), show index - start = index - (start + 1) + 1 by omega, getD_cons_succ]
    · rw [if_neg inside, if_neg (by omega), update_of_ne here]

namespace Shows

variable {memory : Memory} {size : Nat} {content : Nat → UInt8}

section

variable (shows : Shows memory size content)

include shows

lemma lookup (index : Nat) (inside : index < size) :
    memory.data[ofInt index]? = some (.ofInt (content index).toNat) ∨ memory.data[ofInt index]? = none ∧ content index = 0 := by
  cases entry : memory.data[ofInt index]? with
  | none => exact .inr ⟨rfl, shows.absent index inside entry⟩
  | some value =>
    obtain ⟨other, _, same, held⟩ := shows.stored _ _ entry
    rw [index_injective index other same, held]
    exact .inl rfl

lemma byte (index : Nat) (inside : index < size) :
    memory.byte (.ofInt index) = .ofInt (content index).toNat := by
  rw [Memory.byte, Std.HashMap.getD_eq_getD_getElem?]
  rcases shows.lookup index inside with entry | ⟨entry, zero⟩
  · rw [entry, Option.getD_some]
  · rw [entry, zero, Option.getD_none]
    rfl

lemma setByte (index : Nat) (value : UInt8) (inside : index < size) :
    Shows (Memory.setByte (.ofInt index) (.ofInt value.toNat) memory) size (update content index value) where
  stored := by
    intro key held entry
    rw [Memory.setByte, Std.HashMap.getElem?_insert] at entry
    split at entry
    · rename_i same
      rw [← eq_of_beq same]
      injection entry with entry
      exact ⟨index, inside, rfl, by rw [← entry, update_self]⟩
    · rename_i other
      obtain ⟨place, below, rfl, rfl⟩ := shows.stored _ _ entry
      refine ⟨place, below, rfl, ?_⟩
      rw [update_of_ne]
      rintro rfl
      exact other (beq_self_eq_true _)
  absent := by
    intro place below entry
    rw [Memory.setByte, Std.HashMap.getElem?_insert] at entry
    split at entry
    · cases entry
    · rename_i other
      rw [update_of_ne, shows.absent place below entry]
      rintro rfl
      exact other (beq_self_eq_true _)

lemma writeFrom (base : Int) (index start : Nat) (bytes : Bytes)
    (place : base + index = start) (fits : start + bytes.length ≤ size) (small : size ≤ 2 ^ 32) :
    Shows (Memory.writeFrom (.ofInt base) index bytes memory) size (patched content start bytes) := by
  induction bytes generalizing index start content memory with
  | nil =>
    rw [patched_nil]
    exact shows
  | cons first rest ih =>
    rw [length_cons] at fits
    rw [Memory.writeFrom, add_int _ (by omega), place, ← patched_cons]
    exact ih (shows.setByte start first (by omega)) (index + 1) (start + 1) (by omega) (by omega)

end

end Shows

lemma writeFrom_shift (memory : Memory) (start index skipped : Nat) {bytes : Bytes}
    (small : start + index + skipped + bytes.length ≤ 2 ^ 53) : writeFrom (.ofInt start) (index + skipped) bytes memory
      = writeFrom (.ofInt (start + skipped : Nat)) index bytes memory := by
  induction bytes generalizing index memory with
  | nil => rfl
  | cons first rest ih =>
    rw [length_cons] at small
    rw [writeFrom, writeFrom, add_int _ (by omega), add_int _ (by omega), Nat.add_right_comm, ih _ (index + 1) (by omega)]
    congr 3
    push_cast
    ring

lemma fill_writes (memory : Memory) (start : Nat) {count : Nat} {value : UInt8}
    (small : start + count ≤ 2 ^ 53) : fillFrom (.ofInt value.toNat) count (.ofInt start) memory
      = writeFrom (.ofInt start) 0 (replicate count value) memory := by
  induction count generalizing start memory with
  | zero => rfl
  | succ count ih =>
    rw [fillFrom, replicate_succ, writeFrom, add_int _ (by omega),
      add_int _ (by omega), writeFrom_shift _ start 0 1 (by simp; omega), Nat.cast_zero, add_zero]
    exact ih _ (start + 1) (by omega)

variable {value : Nat}

lemma cut_int (small : value ≤ 2 ^ 53) : cut (ofInt value) = (.ofInt (value % 256 : Nat), .ofInt (value / 256 : Nat)) := by
  have rest : Arithmetic.mod (ofInt value) (Arithmetic.ofInt 256) = .ofInt (value % 256 : Nat) :=
    mod_int value 256 (by decide) (by decide)
  have less : ofInt value - .ofInt (value % 256 : Nat) = .ofInt (value - (value % 256 : Nat)) := sub_int (by omega)
  have high : ofInt (value - (value % 256 : Nat)) / Arithmetic.ofInt 256 = .ofInt (value / 256 : Nat) := by
    have whole := div_int (value - (value % 256 : Nat)) 256 (by decide) (by omega) (by omega)
    rw [show ((value : Int) - (value % 256 : Nat)) / 256 = (value / 256 : Nat) by omega] at whole
    exact whole
  rw [cut, rest, less, high]

lemma byte_value : (UInt8.ofNat value).toNat = value % 256 := UInt8.toNat_ofNat'

lemma place_first (small : start ≤ 2 ^ 52) : ofInt start + .ofInt (0 : Nat) = .ofInt start := by
  rw [add_int _ (by omega), Nat.cast_zero, add_zero]

lemma write16_writes (memory : Memory) (value : Int) (small : start ≤ 2 ^ 52) :
    write16 (.ofInt start) (.ofInt value) memory = writeFrom (.ofInt start) 0 (littleBytes 2 (value % 2 ^ 16).toNat) memory := by
  have low : ofInt value % Arithmetic.two 16 = .ofInt (value % 2 ^ 16).toNat := by
    rw [arithmetic_two, Int.toNat_of_nonneg (by omega)]
    exact mod_int value (2 ^ 16) (by decide) (by decide)
  rw [write16, low, cut_int (by omega)]
  simp only [littleBytes, writeFrom, byte_value, place_first small]
  have high : (value % 2 ^ 16).toNat / 256 % 256 = (value % 2 ^ 16).toNat / 256 := by omega
  rw [high]
  rfl

lemma split_int (inside : value < 2 ^ 32) : split (ofInt value) = (.ofInt (value % 256 : Nat), .ofInt (value / 256 % 256 : Nat),
      .ofInt (value / 256 / 256 % 256 : Nat), .ofInt (value / 256 / 256 / 256 % 256 : Nat)) := by
  rw [split, cut_int (by omega)]
  simp only
  rw [cut_int (by omega)]
  simp only
  rw [cut_int (by omega), Nat.mod_eq_of_lt (show value / 256 / 256 / 256 < 256 by omega)]

lemma write32_writes (memory : Memory) (start : Nat) (inside : value < 2 ^ 32) (small : start ≤ 2 ^ 52) :
    write32 (.ofInt start) (.ofInt value) memory = writeFrom (.ofInt start) 0 (littleBytes 4 value) memory := by
  rw [write32, split_int inside]
  simp only [littleBytes, writeFrom, byte_value, place_first small]
  rfl

lemma little_bytes_append (first second value : Nat) : littleBytes (first + second) value
      = littleBytes first value ++ littleBytes second (value / 256 ^ first) := by
  induction first generalizing value with
  | zero => simp [littleBytes]
  | succ first ih =>
    rw [Nat.add_right_comm, littleBytes, littleBytes, ih, Nat.div_div_eq_div_mul, Nat.pow_succ', cons_append]

lemma little_bytes_mod (width value : Nat) : littleBytes width (value % 256 ^ width) = littleBytes width value := by
  induction width generalizing value with
  | zero => rfl
  | succ width ih =>
    have low : UInt8.ofNat (value % 256 ^ (width + 1)) = UInt8.ofNat value := by
      apply UInt8.toNat_inj.mp
      rw [byte_value, byte_value, Nat.pow_succ', Nat.mod_mod_of_dvd _ (Nat.dvd_mul_right _ _)]
    rw [littleBytes, littleBytes, low, Nat.pow_succ', Nat.mod_mul_right_div_self, ih]

lemma writeFrom_append (memory : Memory) {base : Number} (index : Nat) {first second : Bytes} :
    writeFrom base index (first ++ second) memory
      = writeFrom base (index + first.length) second (writeFrom base index first memory) := by
  induction first generalizing index memory with
  | nil => rfl
  | cons head tail ih =>
    rw [cons_append, writeFrom, writeFrom, ih, length_cons, Nat.add_right_comm, Nat.add_assoc]

lemma write64_writes (memory : Memory) {start low high : Nat} (lower : low < 2 ^ 32)
    (upper : high < 2 ^ 32) (small : start ≤ 2 ^ 51) : write64 (.ofInt start) ⟨.ofInt low, .ofInt high⟩ memory
      = writeFrom (.ofInt start) 0 (littleBytes 8 (high * 2 ^ 32 + low)) memory := by
  have parts : littleBytes 8 (high * 2 ^ 32 + low) = littleBytes 4 low ++ littleBytes 4 high := by
    rw [little_bytes_append 4 4, ← little_bytes_mod 4 (high * 2 ^ 32 + low)]
    congr 2 <;> omega
  rw [write64, add_int _ (by omega), write32_writes _ _ lower (by omega), parts, writeFrom_append, Wasm.little_bytes_length,
    writeFrom_shift _ start 0 4 (by rw [Wasm.little_bytes_length]; omega)]
  exact write32_writes _ (start + 4) upper (by omega)

end WasmLua.Exec.Memory
