import WasmLua.Proofs.Integers.Exact
import WasmLua.Proofs.Integers.Words

namespace WasmLua.Exec.I32

open Int
open Numeric Held

variable {width k : Nat} {x : Int} {word a : BitVec 32} {N : Type} [Numeric N]

lemma signed_residue (a : BitVec width) : a.toInt % 2 ^ width = a.toNat := by
  have below : (a.toNat : Int) < 2 ^ width := by exact_mod_cast a.isLt
  have balanced := bmod_emod (x := a.toNat) (m := 2 ^ width)
  rw [← BitVec.toInt_eq_toNat_bmod] at balanced
  push_cast at balanced
  rw [balanced, emod_eq_of_lt (by omega) below]

lemma low_bits (a : BitVec 32) (k : Nat) (below : k ≤ 32) : a.toInt % 2 ^ k = ((a.toNat % 2 ^ k : Nat) : Int) := by
  have divides : (2 : Int) ^ k ∣ 2 ^ 32 := pow_dvd_pow 2 below
  rw [← emod_emod_of_dvd _ divides, signed_residue]
  push_cast
  rfl

lemma signed_reading (word : BitVec (k + 1)) (half whole : Int) (first : half = 2 ^ k)
    (second : whole = 2 ^ (k + 1)) : word.toInt =
      if half ≤ (word.toNat : Int) then (word.toNat : Int) - whole else (word.toNat : Int) := by
  have double : 2 ^ (k + 1) = 2 ^ k * 2 := pow_succ 2 k
  have boundary : half ≤ (word.toNat : Int) ↔ 2 ^ k ≤ word.toNat := by
    rw [first]
    exact_mod_cast Iff.rfl
  rw [BitVec.toInt_eq_toNat_cond, second]
  by_cases high : 2 ^ k ≤ word.toNat
  · rw [if_pos (boundary.mpr high), if_neg (by omega)]
    push_cast
    rfl
  · rw [if_neg (boundary.not.mpr high), if_pos (by omega)]

lemma two_pow_split (total k : Nat) (below : k ≤ total) : 2 ^ total = 2 ^ (total - k) * 2 ^ k := by
  rw [← pow_add, Nat.sub_add_cancel below]

lemma shifted_residue {total x : Nat} (below : k ≤ total) : x * 2 ^ k % 2 ^ total = x % 2 ^ (total - k) * 2 ^ k := by
  rw [two_pow_split total k below, Nat.mul_mod_mul_right]

lemma power_small (k : Nat) (below : k ≤ 32) : (0 : Int) < 2 ^ k ∧ (2 : Int) ^ k ≤ 2 ^ 32 :=
  ⟨by positivity, pow_le_pow_right₀ (by norm_num) below⟩

lemma signed_small (a : BitVec 32) : -2 ^ 31 ≤ a.toInt ∧ a.toInt < 2 ^ 31 := ⟨BitVec.le_toInt a, BitVec.toInt_lt⟩

variable [Whole N]

lemma unsigned_residue (residue : x % 2 ^ 32 = word.toNat) : unsigned (ofInt x : N) = .ok (ofInt word.toNat) := by
  rw [unsigned, whole_two, Whole.mod (by norm_num) (by norm_num), residue]

lemma exact_unsigned : unsigned (ofInt a.toInt : N) = .ok (ofInt a.toNat) := unsigned_residue (signed_residue a)

lemma exact_wrap (residue : x % 2 ^ 32 = word.toNat) : wrap (ofInt x : N) = .ok (ofInt word.toInt) := by
  have same : x.bmod (2 ^ 32) = (word.toNat : Int).bmod (2 ^ 32) := by
    rw [← residue]
    exact (emod_bmod x (2 ^ 32)).symm
  rw [whole_wrap, same, BitVec.toInt_eq_toNat_bmod]

lemma exact_wrap_of_eq (same : x = word.toNat) : wrap (ofInt x : N) = .ok (ofInt word.toInt) := by
  apply exact_wrap
  have := word.isLt
  omega

variable {b : BitVec 32}

lemma exact_sum : binary .add (ofInt a.toInt : N) (ofInt b.toInt) = .ok (ofInt (a + b).toInt) := by
  have first := signed_residue a
  have second := signed_residue b
  have left := signed_small a
  have right := signed_small b
  rw [binary, Whole.add (by omega), ok_bind]
  apply exact_wrap
  rw [BitVec.toNat_add]
  omega

lemma exact_difference : binary .sub (ofInt a.toInt : N) (ofInt b.toInt) = .ok (ofInt (a - b).toInt) := by
  have first := signed_residue a
  have second := signed_residue b
  have left := signed_small a
  have right := signed_small b
  have := b.isLt
  rw [binary, Whole.sub (by omega), ok_bind]
  apply exact_wrap
  rw [BitVec.toNat_sub]
  omega

lemma product_residue (a b : Nat) : ((a : Int) % 2 ^ 16 * b + (a : Int) / 2 ^ 16 * b % 2 ^ 16 * 2 ^ 16) % 2 ^ 32
      = ((a * b % 2 ^ 32 : Nat) : Int) := by
  have split : (a : Int) = a % 2 ^ 16 + 2 ^ 16 * (a / 2 ^ 16) := by omega
  generalize (a : Int) / 2 ^ 16 = high at *
  generalize (a : Int) % 2 ^ 16 = low at *
  push_cast
  rw [split, add_mul, add_emod, add_emod (low * b)]
  congr 2
  rw [mul_assoc]
  omega

lemma exact_product : mul (ofInt a.toInt : N) (ofInt b.toInt) = .ok (ofInt (a * b).toInt) := by
  have first := a.isLt
  have second := b.isLt
  have bounded (limb : Int) (least : 0 ≤ limb) (most : limb < 2 ^ 16) : 0 ≤ limb * b.toNat ∧ limb * b.toNat ≤ 2 ^ 16 * 2 ^ 32 :=
    ⟨by positivity, mul_le_mul most.le (by omega) (by omega) (by norm_num)⟩
  have low := bounded (a.toNat % 2 ^ 16) (by omega) (by omega)
  have high := bounded (a.toNat / 2 ^ 16) (by omega) (by omega)
  simp (disch := omega) only [mul, exact_unsigned, whole_two, Whole.mod, Whole.sub, whole_cut _ 16 rfl, Whole.mul, Whole.add, ok_bind]
  apply exact_wrap
  rw [BitVec.toNat_mul]
  exact product_residue ..

lemma signed_eq (a b : BitVec 32) : eq (ofInt a.toInt : N) (ofInt b.toInt) = decide (a = b) := by
  rw [Whole.eq]
  simp only [BitVec.toInt_inj]

lemma exact_is_zero : isZero (ofInt a.toInt : N) = decide (a = 0) := signed_eq a 0

lemma signed_nonzero (nonzero : a ≠ 0) : a.toInt ≠ 0 := by
  intro zero
  exact nonzero (BitVec.toInt_inj.mp zero)

lemma unsigned_positive (nonzero : a ≠ 0) : 0 < a.toNat := by
  apply Nat.pos_of_ne_zero
  intro zero
  exact nonzero (BitVec.eq_of_toNat_eq zero)

lemma exact_rem_s : remS (ofInt a.toInt : N) (ofInt b.toInt) =
      if b = 0 then .error (.trap .integerDivideByZero) else .ok (ofInt (a.srem b).toInt) := by
  have bound := signed_small a
  simp only [remS, exact_is_zero, decide_eq_true_eq]
  by_cases zero : b = 0
  · rw [if_pos zero, if_pos zero]
  · rw [if_neg zero, if_neg zero, Whole.rest (by omega) (signed_nonzero zero), BitVec.toInt_srem]

lemma exact_rem_u : remU (ofInt a.toInt : N) (ofInt b.toInt) =
      if b = 0 then .error (.trap .integerDivideByZero) else .ok (ofInt (a.umod b).toInt) := by
  simp only [remU, exact_is_zero, decide_eq_true_eq]
  by_cases zero : b = 0
  · rw [if_pos zero, if_pos zero]
  · have positive : (0 : Int) < b.toNat := by exact_mod_cast unsigned_positive zero
    rw [if_neg zero, if_neg zero, exact_unsigned, ok_bind, exact_unsigned, ok_bind, Whole.fmod (by positivity) positive.ne', ok_bind]
    apply exact_wrap_of_eq
    rw [tmod_eq_emod_of_nonneg (by positivity), BitVec.umod_eq, BitVec.toNat_umod, natCast_emod]

section Quotients

omit [Whole N]

variable [Quotients N]

lemma exact_div_s : divS (ofInt a.toInt : N) (ofInt b.toInt) =
      if b = 0 then .error (.trap .integerDivideByZero)
      else if a = BitVec.intMin 32 ∧ b = -1 then .error (.trap .integerOverflow)
      else .ok (ofInt (a.sdiv b).toInt) := by
  have lowest : eq (ofInt a.toInt : N) (ofInt (-2147483648)) = decide (a = BitVec.intMin 32) := signed_eq a (BitVec.intMin 32)
  have minus : eq (ofInt b.toInt : N) (ofInt (-1)) = decide (b = -1) := signed_eq b (-1)
  have left := signed_small a
  have right := signed_small b
  simp only [divS, exact_is_zero, lowest, minus, decide_eq_true_eq, Bool.and_eq_true]
  by_cases zero : b = 0
  · rw [if_pos zero, if_pos zero]
  by_cases overflow : a = BitVec.intMin 32 ∧ b = -1
  · rw [if_neg zero, if_neg zero, if_pos overflow, if_pos overflow]
  · rw [if_neg zero, if_neg zero, if_neg overflow, if_neg overflow, ← bind_assoc,
      Quotients.trunc_div (by omega) (signed_nonzero zero) (by omega), BitVec.toInt_sdiv_of_ne_or_ne a b (not_and_or.mp overflow)]

lemma exact_div_u : divU (ofInt a.toInt : N) (ofInt b.toInt) =
      if b = 0 then .error (.trap .integerDivideByZero) else .ok (ofInt (a.udiv b).toInt) := by
  have first := a.isLt
  have second := b.isLt
  simp only [divU, exact_is_zero, decide_eq_true_eq]
  by_cases zero : b = 0
  · rw [if_pos zero, if_pos zero]
  · have positive := unsigned_positive zero
    rw [if_neg zero, if_neg zero, exact_unsigned, ok_bind, exact_unsigned, ok_bind, ← bind_assoc,
      Quotients.floor_div (by omega) (by omega) (by omega) (by omega), ok_bind]
    apply exact_wrap_of_eq
    rw [BitVec.udiv_eq, BitVec.toNat_udiv, natCast_ediv]

end Quotients

lemma exact_count : mod (ofInt b.toInt : N) (ofInt 32) = .ok (ofInt (b.toNat % 32 : Nat)) := by
  rw [Whole.mod (by norm_num) (by norm_num)]
  exact congrArg (Except.ok ∘ ofInt) (low_bits b 5 (by norm_num))

lemma exact_shl : shl (ofInt a.toInt : N) (ofInt b.toInt) = .ok (ofInt (a <<< (b.toNat % 32)).toInt) := by
  have below : b.toNat % 32 ≤ 32 := by omega
  rw [shl, exact_count, ok_bind]
  generalize b.toNat % 32 = k at below ⊢
  have kept := power_small (32 - k) (by omega)
  have value : (a.toNat % 2 ^ (32 - k) * 2 ^ k : Nat) = (a <<< k).toNat := by
    rw [BitVec.toNat_shiftLeft, Nat.shiftLeft_eq, shifted_residue below]
  have small : ((a.toNat % 2 ^ (32 - k) : Nat) : Int) * 2 ^ k = (a <<< k).toNat := by
    rw [← value]
    push_cast
    rfl
  have bound := (a <<< k).isLt
  rw [whole_rest 32 32 k rfl below (by norm_num), ok_bind, whole_power (by omega), ok_bind,
    Whole.mod (by omega) (by omega), ok_bind, whole_power (by omega), ok_bind,
    low_bits a (32 - k) (by omega), Whole.mul (by omega), ok_bind]
  exact exact_wrap_of_eq small

lemma exact_shr_s : shrS (ofInt a.toInt : N) (ofInt b.toInt) = .ok (ofInt (a.sshiftRight (b.toNat % 32)).toInt) := by
  have bound := signed_small a
  have result := signed_small (a.sshiftRight (b.toNat % 32))
  have value : a.toInt / 2 ^ (b.toNat % 32) = (a.sshiftRight (b.toNat % 32)).toInt := by
    rw [BitVec.toInt_sshiftRight, shiftRight_eq_div_pow]
    push_cast
    rfl
  rw [shrS, exact_count, ok_bind, whole_power (by omega), ok_bind, whole_shift _ (by omega) (by omega), value, whole_plain (by omega)]

lemma exact_shr_u : shrU (ofInt a.toInt : N) (ofInt b.toInt) = .ok (ofInt (a >>> (b.toNat % 32)).toInt) := by
  have bound := a.isLt
  rw [shrU, exact_unsigned, ok_bind, exact_count, ok_bind, whole_power (by omega), ok_bind, whole_shift _ (by omega) (by omega)]
  apply exact_wrap_of_eq
  rw [BitVec.toNat_ushiftRight, Nat.shiftRight_eq_div_pow]
  push_cast
  rfl

lemma exact_rotation (a : BitVec 32) {count : Int} (k : Nat) (below : k < 32) (same : count % 32 = k) :
    rotl (ofInt a.toInt : N) (ofInt count) = .ok (ofInt (a.rotateLeft k).toInt) := by
  have bound := a.isLt
  have top := power_small (32 - k) (by omega)
  have small : a.toNat / 2 ^ (32 - k) < 2 ^ k := by
    rw [Nat.div_lt_iff_lt_mul (by positivity), mul_comm, ← two_pow_split 32 k below.le]
    exact bound
  have value : (a.toNat % 2 ^ (32 - k) * 2 ^ k + a.toNat / 2 ^ (32 - k) : Nat) = (a.rotateLeft k).toNat := by
    rw [BitVec.toNat_rotateLeft, Nat.mod_eq_of_lt below, Nat.shiftLeft_eq, Nat.shiftRight_eq_div_pow,
      shifted_residue below.le, ← Nat.shiftLeft_eq, ← Nat.shiftLeft_add_eq_or_of_lt small]
  have cast : (a.toNat : Int) % 2 ^ (32 - k) * 2 ^ k + (a.toNat : Int) / 2 ^ (32 - k) = (a.rotateLeft k).toNat := by
    rw [← value]
    push_cast
    rfl
  have result := (a.rotateLeft k).isLt
  have quotient : 0 ≤ (a.toNat : Int) / 2 ^ (32 - k) := by positivity
  have rest : 0 ≤ (a.toNat : Int) % 2 ^ (32 - k) := emod_nonneg _ top.1.ne'
  have less : (a.toNat : Int) % 2 ^ (32 - k) ≤ a.toNat := by
    exact_mod_cast Nat.mod_le a.toNat (2 ^ (32 - k))
  have product : 0 ≤ (a.toNat : Int) % 2 ^ (32 - k) * 2 ^ k := mul_nonneg rest (by positivity)
  rw [rotl, Whole.mod (by norm_num) (by norm_num), same, ok_bind, exact_unsigned, ok_bind,
    whole_rest 32 32 k rfl below.le (by norm_num), ok_bind, whole_power (by omega), ok_bind,
    Whole.mod (by omega) (by omega), ok_bind, whole_power (by omega), ok_bind, Whole.mul (by omega),
    ok_bind, Whole.sub (by omega), ok_bind, whole_cut _ _ rfl (by omega) (by omega), ok_bind, Whole.add (by omega), ok_bind]
  exact exact_wrap_of_eq cast

lemma exact_rotl : rotl (ofInt a.toInt : N) (ofInt b.toInt) = .ok (ofInt (a.rotateLeft (b.toNat % 32)).toInt) :=
  exact_rotation a (b.toNat % 32) (by omega) (low_bits b 5 (by norm_num))

lemma rotate_rest (a : BitVec 32) (below : k < 32) : a.rotateLeft ((32 - k) % 32) = a.rotateRight k := by
  rw [BitVec.rotateLeft_def, BitVec.rotateRight_def, Nat.mod_mod, Nat.mod_eq_of_lt below, BitVec.or_comm]
  by_cases zero : k = 0
  · subst zero
    simp [BitVec.ushiftRight_eq_zero]
  · rw [Nat.mod_eq_of_lt (show 32 - k < 32 by omega), Nat.sub_sub_self below.le]

lemma exact_rotr : rotr (ofInt a.toInt : N) (ofInt b.toInt) = .ok (ofInt (a.rotateRight (b.toNat % 32)).toInt) := by
  have below : b.toNat % 32 < 32 := by omega
  rw [rotr, exact_count, ok_bind]
  generalize b.toNat % 32 = k at below ⊢
  rw [whole_rest 32 32 k rfl below.le (by norm_num), ok_bind,
    exact_rotation a ((32 - k) % 32) (by omega) (by push_cast; omega), rotate_rest a below]

variable (rule : Bool → Bool → Bool)

lemma bitwise_split (quiet : rule false false = false) (k a b : Nat) : Nat.bitwise rule a b =
      Nat.bitwise rule (a % 2 ^ k) (b % 2 ^ k) + 2 ^ k * Nat.bitwise rule (a / 2 ^ k) (b / 2 ^ k) := by
  rw [← Nat.bitwise_mod_two_pow quiet, ← Nat.bitwise_div_two_pow quiet, Nat.mod_add_div]

lemma residue_digits (base rest a : Nat) : a % (base * rest) % base = a % base ∧ a % (base * rest) / base = a / base % rest :=
  ⟨Nat.mod_mul_right_mod a base rest, Nat.mod_mul_right_div_self a base rest⟩

lemma merge_bits (quiet : rule false false = false) {count : Nat} (place a b : Nat) :
    mergeBits rule count place a b = place * Nat.bitwise rule (a % 2 ^ count) (b % 2 ^ count) := by
  induction count generalizing place a b with
  | zero => simp [mergeBits, Nat.mod_one]
  | succ count ih =>
    obtain ⟨lowA, highA⟩ := residue_digits 2 (2 ^ count) a
    obtain ⟨lowB, highB⟩ := residue_digits 2 (2 ^ count) b
    rw [pow_succ', bitwise_split rule quiet 1, pow_one, lowA, lowB, highA, highB, mergeBits, ih]
    have bit : Nat.bitwise rule (a % 2) (b % 2) =
        if rule (a % 2 == 1) (b % 2 == 1) then 1 else 0 := by
      rcases Nat.mod_two_eq_zero_or_one a with ha | ha <;>
        rcases Nat.mod_two_eq_zero_or_one b with hb | hb <;>
        simp [ha, hb, quiet, Nat.bitwise]
    rw [bit]
    split <;> ring

lemma nibble_entry (quiet : rule false false = false) (a b : Nat)
    (first : a < 16) (second : b < 16) : nibble (nibbleTable rule) (ofInt (a * 16 + b : Nat) : N)
      = .ok (ofInt (Nat.bitwise rule a b)) := by
  have high : (a * 16 + b) / 16 = a := by omega
  have low : (a * 16 + b) % 16 = b := by omega
  have inside : a * 16 + b < 256 := by omega
  have entry : (nibbleTable rule)[a * 16 + b]? = some (Nat.bitwise rule a b) := by
    simp only [nibbleTable, Array.getElem?_ofFn, dif_pos inside, merge_bits rule quiet, high, low,
      one_mul, Nat.mod_eq_of_lt (show a < 2 ^ 4 from first), Nat.mod_eq_of_lt (show b < 2 ^ 4 from second)]
  simp only [nibble, Whole.whole, toNat_natCast, entry]
  rw [if_pos (by positivity)]

lemma exact_nibbles (quiet : rule false false = false)
    (count result place a b : Nat) (left : a < 2 ^ 32) (right : b < 2 ^ 32) (below : result ≤ place)
    (room : place * 16 ^ count ≤ 2 ^ 32) : nibbles (nibbleTable rule) count (ofInt result : N) (ofInt place) (ofInt a) (ofInt b)
      = .ok (ofInt (result + place * Nat.bitwise rule (a % 16 ^ count) (b % 16 ^ count) : Nat)) := by
  induction count generalizing result place a b with
  | zero => simp [nibbles, Nat.mod_one]
  | succ count ih =>
    have digit : Nat.bitwise rule (a % 16) (b % 16) < 2 ^ 4 := Nat.bitwise_lt_two_pow (by omega) (by omega)
    have entry : nibble (nibbleTable rule) (ofInt (a % 16 * 16 + b % 16 : Int) : N)
        = .ok (ofInt (Nat.bitwise rule (a % 16) (b % 16))) := by
      exact_mod_cast nibble_entry (N := N) rule quiet (a % 16) (b % 16) (by omega) (by omega)
    obtain ⟨lowA, highA⟩ := residue_digits 16 (16 ^ count) a
    obtain ⟨lowB, highB⟩ := residue_digits 16 (16 ^ count) b
    have digits := bitwise_split rule quiet 4 (a % 16 ^ (count + 1)) (b % 16 ^ (count + 1))
    rw [pow_succ', show 2 ^ 4 = 16 from rfl, lowA, lowB, highA, highB] at digits
    rw [pow_succ', ← mul_assoc] at room
    generalize Nat.bitwise rule (a % 16) (b % 16) = merged at *
    have scaled : merged * place ≤ 15 * place := Nat.mul_le_mul_right place (by omega)
    have bound : place * 16 ≤ 2 ^ 32 := (Nat.le_mul_of_pos_right _ (by positivity)).trans room
    have step := ih (result + merged * place) (place * 16) (a / 16) (b / 16) (by omega) (by omega) (by omega) room
    have product : (merged : Int) * place = (merged * place : Nat) := by push_cast; rfl
    simp (disch := omega) only [nibbles, Whole.mod, Whole.sub, Whole.mul, Whole.add, whole_cut 16 4 rfl, ok_bind, entry, product]
    rw [pow_succ', digits, mul_add, ← mul_assoc, ← add_assoc, mul_comm place merged]
    exact_mod_cast step

lemma exact_bitwise (quiet : rule false false = false) {a b : Nat} (first : a < 2 ^ 32) (second : b < 2 ^ 32) :
    bitwise (nibbleTable rule) (ofInt a : N) (ofInt b) = .ok (ofInt (Nat.bitwise rule a b)) := by
  have merged := exact_nibbles (N := N) rule quiet 8 0 1 a b first second (by norm_num) (by norm_num)
  rw [Nat.mod_eq_of_lt (show a < 16 ^ 8 from first), Nat.mod_eq_of_lt (show b < 16 ^ 8 from second), zero_add, one_mul] at merged
  exact merged

lemma exact_logic (quiet : rule false false = false) (a b word : BitVec 32)
    (same : Nat.bitwise rule a.toNat b.toNat = word.toNat) :
    logic (nibbleTable rule) (ofInt a.toInt : N) (ofInt b.toInt) = .ok (ofInt word.toInt) := by
  rw [logic, exact_unsigned, ok_bind, exact_unsigned, ok_bind, exact_bitwise rule quiet a.isLt b.isLt, same, ok_bind]
  exact exact_wrap_of_eq rfl

lemma exact_clz_from (fuel k x count : Nat) (enough : k < fuel) (below : k ≤ 31) (small : count + k ≤ 64)
    (least : 2 ^ (31 - k) ≤ x) (most : x < 2 ^ (32 - k)) :
    clzFrom fuel (ofInt x : N) (ofInt count) = .ok (ofInt (count + k : Nat)) := by
  induction k generalizing fuel x count with
  | zero =>
    obtain ⟨fuel, rfl⟩ := Nat.exists_eq_succ_of_ne_zero (Nat.ne_of_gt enough)
    have top : ¬ (x : Int) < 2 ^ 31 := by exact_mod_cast Nat.not_lt.mpr least
    simp only [clzFrom, whole_two, Whole.lt, ok_bind, decide_eq_true_eq, if_neg top]
    rfl
  | succ k ih =>
    obtain ⟨fuel, rfl⟩ := Nat.exists_eq_succ_of_ne_zero (Nat.ne_of_gt (Nat.zero_lt_of_lt enough))
    have room : (x : Int) < 2 ^ 31 := by
      have bound : 2 ^ (32 - (k + 1)) ≤ 2 ^ 31 := Nat.pow_le_pow_right (by norm_num) (by omega)
      exact_mod_cast most.trans_le bound
    have lower : 2 ^ (31 - k) = 2 ^ (31 - (k + 1)) * 2 := by
      rw [← pow_succ]
      congr 1
      omega
    have upper : 2 ^ (32 - k) = 2 ^ (32 - (k + 1)) * 2 := by
      rw [← pow_succ]
      congr 1
      omega
    have step := ih fuel (x * 2) (count + 1) (by omega) (by omega) (by omega) (by omega) (by omega)
    rw [Nat.add_right_comm] at step
    rw [clzFrom, whole_two, Whole.lt, ok_bind, if_pos (decide_eq_true room), Whole.mul (by omega), ok_bind, Whole.add (by omega), ok_bind]
    exact_mod_cast step

lemma exact_ctz_from (fuel k count : Nat) {x : Nat} (enough : k < fuel) (small : count + k ≤ 64)
    (bound : 2 ^ k * x < 2 ^ 32) (odd : x % 2 = 1) :
    ctzFrom fuel (ofInt (2 ^ k * x : Nat) : N) (ofInt count) = .ok (ofInt (count + k : Nat)) := by
  induction k generalizing fuel count with
  | zero =>
    obtain ⟨fuel, rfl⟩ := Nat.exists_eq_succ_of_ne_zero (Nat.ne_of_gt enough)
    have bottom : ¬ ((2 ^ 0 * x : Nat) : Int) % 2 = 0 := by omega
    rw [ctzFrom, Whole.mod (by norm_num) (by norm_num), ok_bind, whole_zero, if_neg (by simpa using bottom)]
    rfl
  | succ k ih =>
    obtain ⟨fuel, rfl⟩ := Nat.exists_eq_succ_of_ne_zero (Nat.ne_of_gt (Nat.zero_lt_of_lt enough))
    have double : 2 ^ (k + 1) * x = 2 * (2 ^ k * x) := by rw [pow_succ', mul_assoc]
    rw [double] at bound ⊢
    have step := ih fuel (count + 1) (by omega) (by omega) (by omega)
    rw [Nat.add_right_comm] at step
    generalize 2 ^ k * x = half at *
    rw [ctzFrom, Whole.mod (by norm_num) (by norm_num), ok_bind, whole_zero,
      if_pos (decide_eq_true (by omega)), Whole.down 2 1 rfl (by omega) (by omega), ok_bind,
      Whole.add (by omega), ok_bind, show ((2 * half : Nat) : Int) / 2 = half by omega]
    exact_mod_cast step

lemma popcnt_none (fuel count : Nat) : popcntFrom fuel (ofInt 0 : N) (ofInt count) = .ok (ofInt count) := by
  cases fuel with
  | zero => rfl
  | succ fuel =>
    simp only [popcntFrom, Whole.lt, ok_bind, lt_self_iff_false, decide_false]
    rfl

lemma exact_popcnt_from (fuel count : Nat) (word : BitVec width) (enough : width ≤ fuel)
    (short : width ≤ 32) (small : count + width ≤ 64) :
    popcntFrom fuel (ofInt word.toNat : N) (ofInt count) = .ok (ofInt (count + word.cpop.toNat : Nat)) := by
  induction word using BitVec.concat_induction generalizing fuel count with
  | nil => exact popcnt_none fuel count
  | concat word bit ih =>
    obtain ⟨fuel, rfl⟩ := Nat.exists_eq_succ_of_ne_zero (Nat.ne_of_gt (Nat.zero_lt_of_lt enough))
    have binary := bit.toNat_lt
    have bound : (word.concat bit).toNat < 2 ^ 32 := (word.concat bit).isLt.trans_le (Nat.pow_le_pow_right (by norm_num) short)
    by_cases zero : (word.concat bit).toNat = 0
    · have empty : word.concat bit = 0 := BitVec.eq_of_toNat_eq zero
      rw [empty]
      simpa using popcnt_none (N := N) (fuel + 1) count
    · have parts := BitVec.toNat_concat word bit
      have low : ((word.concat bit).toNat : Int) % 2 = bit.toNat := by omega
      have high : ((word.concat bit).toNat : Int) / 2 = word.toNat := by omega
      have step := ih fuel (count + bit.toNat) (by omega) (by omega) (by omega)
      rw [popcntFrom, Whole.lt, ok_bind, if_pos (decide_eq_true (by omega)),
        Whole.mod (by norm_num) (by norm_num), ok_bind, Whole.sub (by omega), ok_bind,
        whole_cut 2 1 rfl (by omega) (by omega), ok_bind, low, high, Whole.add (by omega), ok_bind,
        BitVec.toNat_cpop_concat, ← Nat.add_assoc]
      exact_mod_cast step

lemma exact_clz (residue : x % 2 ^ 32 = word.toNat) : clz (ofInt x : N) = .ok (ofInt word.clz.toNat) := by
  rw [clz, unsigned_residue residue, ok_bind, whole_zero]
  by_cases zero : word = 0
  · subst zero
    rfl
  · have positive := unsigned_positive zero
    have some_bit := BitVec.two_pow_sub_clz_le_toNat_of_ne_zero (by norm_num) zero
    have no_more : word.toNat < 2 ^ (32 - word.clz.toNat) := BitVec.toNat_lt_two_pow_sub_clz
    have below : word.clz.toNat < 32 := BitVec.lt_def.mp (BitVec.clz_lt_iff_ne_zero.mpr zero)
    have counted := exact_clz_from (N := N) clzFuel word.clz.toNat word.toNat 0
      (by unfold clzFuel; omega) (by omega) (by omega) some_bit no_more
    rw [Nat.zero_add] at counted
    rw [if_neg (by simp; omega)]
    exact counted

lemma ctz_zero : (0 : BitVec width).ctz = BitVec.ofNat width width := by
  have reversed : (0 : BitVec width).reverse = 0 := BitVec.reverse_eq_zero_iff.mpr rfl
  rw [BitVec.ctz_eq_reverse_clz, reversed]
  exact BitVec.clz_eq_iff_eq_zero.mpr rfl

lemma ctz_le (a : BitVec width) : a.ctz.toNat ≤ width := by
  rw [BitVec.ctz_eq_reverse_clz]
  have bound := BitVec.le_def.mp (BitVec.clz_le (x := a.reverse))
  simpa using bound

lemma ctz_split {word : BitVec width} (nonzero : word ≠ 0) : ∃ rest, word.toNat = 2 ^ word.ctz.toNat * rest ∧ rest % 2 = 1 := by
  have clear : word.toNat % 2 ^ word.ctz.toNat = 0 := by
    apply Nat.eq_of_testBit_eq
    intro i
    rw [Nat.testBit_mod_two_pow, Nat.zero_testBit]
    by_cases low : i < word.ctz.toNat
    · have bit : word.toNat.testBit i = false := BitVec.getLsbD_false_of_lt_ctz low
      rw [bit, Bool.and_false]
    · simp [low]
  obtain ⟨rest, whole⟩ := Nat.dvd_of_mod_eq_zero clear
  refine ⟨rest, whole, ?_⟩
  have bit : word.toNat.testBit word.ctz.toNat = true := BitVec.getLsbD_true_ctz_of_ne_zero nonzero
  rw [whole, Nat.testBit_two_pow_mul] at bit
  simpa using bit

lemma exact_ctz (residue : x % 2 ^ 32 = word.toNat) : ctz (ofInt x : N) = .ok (ofInt word.ctz.toNat) := by
  rw [ctz, unsigned_residue residue, ok_bind, whole_zero]
  by_cases zero : word = 0
  · subst zero
    rw [ctz_zero]
    rfl
  · have positive := unsigned_positive zero
    have below : word.ctz.toNat ≤ 32 := ctz_le word
    obtain ⟨rest, whole, odd⟩ := ctz_split zero
    have counted := exact_ctz_from (N := N) 64 word.ctz.toNat 0 (by omega) (by omega) (whole ▸ word.isLt) odd
    rw [← whole, Nat.zero_add] at counted
    rw [if_neg (by simp; omega)]
    exact counted

lemma exact_popcnt (residue : x % 2 ^ 32 = word.toNat) : popcnt (ofInt x : N) = .ok (ofInt word.cpop.toNat) := by
  have counted := exact_popcnt_from (N := N) 64 0 word (by norm_num) (by norm_num) (by norm_num)
  rw [Nat.zero_add] at counted
  rw [popcnt, unsigned_residue residue, ok_bind]
  exact counted

lemma small_signed (small : a.toNat ≤ 32) : a.toInt = a.toNat := BitVec.toInt_eq_toNat_of_lt (by omega)

lemma exact_unary {op : Wasm.IntUnary} : unary op (ofInt a.toInt : N) = .ok (ofInt (Wasm.Word.unary op a).toInt) := by
  have residue := signed_residue a
  cases op with
  | clz => rw [unary, exact_clz residue, Wasm.Word.unary, small_signed (BitVec.le_def.mp BitVec.clz_le)]
  | ctz => rw [unary, exact_ctz residue, Wasm.Word.unary, small_signed (ctz_le a)]
  | popcnt => rw [unary, exact_popcnt residue, Wasm.Word.unary, small_signed (BitVec.toNat_cpop_le a)]

lemma exact_compare {op : Wasm.IntCompare} : compare op (ofInt a.toInt : N) (ofInt b.toInt) = .ok (Wasm.Word.compare op a b) := by
  cases op with
  | eq => rw [compare, signed_eq, Wasm.Word.compare, beq_eq_decide]
  | ne => rw [compare, signed_eq, Wasm.Word.compare, bne, beq_eq_decide]
  | lt sign | gt sign | le sign | ge sign =>
    cases sign with
    | signed => simp only [compare, Whole.lt, Whole.le, Wasm.Word.compare, BitVec.slt, BitVec.sle]
    | unsigned =>
      simp only [compare, exact_unsigned, ok_bind, Whole.lt, Whole.le, Wasm.Word.compare, BitVec.ult,
        BitVec.ule, ofNat_lt, ofNat_le]

lemma exact_extend8 {byte : BitVec 8} (residue : x % 256 = byte.toNat) : extend8 (ofInt x : N) = .ok (ofInt byte.toInt) := by
  rw [extend8, Whole.mod (by norm_num) (by norm_num), ok_bind, Whole.le, ok_bind, Whole.sub (by omega), residue,
    signed_reading byte 128 256 rfl rfl]
  simp only [decide_eq_true_eq]
  split <;> rfl

lemma exact_extend16 {word : BitVec 16} (residue : x % 2 ^ 16 = word.toNat) :
    extend16 (ofInt x : N) = .ok (ofInt word.toInt) := by
  rw [extend16, whole_two, Whole.mod (by norm_num) (by norm_num), ok_bind, Whole.le, ok_bind,
    Whole.sub (by omega), residue, signed_reading word 32768 (2 ^ 16) rfl rfl]
  simp only [decide_eq_true_eq]
  split <;> rfl

lemma exact_binary (op : Wasm.IntBinary) (a b : BitVec 32) (quotients : (∃ sign, op = .div sign) → Quotients N) :
    binary op (ofInt a.toInt : N) (ofInt b.toInt) = answered (fun word => ofInt word.toInt) (Wasm.Word.binary op a b) := by
  cases op with
  | add => exact exact_sum
  | sub => exact exact_difference
  | mul => exact exact_product
  | div sign =>
    have := quotients ⟨sign, rfl⟩
    cases sign with
    | signed =>
      rw [binary, exact_div_s, Wasm.Word.binary]
      split
      · rfl
      · split <;> rfl
    | unsigned =>
      rw [binary, exact_div_u, Wasm.Word.binary]
      split <;> rfl
  | rem sign =>
    cases sign with
    | signed =>
      rw [binary, exact_rem_s, Wasm.Word.binary]
      split <;> rfl
    | unsigned =>
      rw [binary, exact_rem_u, Wasm.Word.binary]
      split <;> rfl
  | and => exact exact_logic and rfl a b (a &&& b) rfl
  | or => exact exact_logic or rfl a b (a ||| b) rfl
  | xor => exact exact_logic xor rfl a b (a ^^^ b) rfl
  | shl => exact exact_shl
  | shr sign =>
    cases sign with
    | signed => exact exact_shr_s
    | unsigned => exact exact_shr_u
  | rotl => exact exact_rotl
  | rotr => exact exact_rotr

section Held

variable {P : Type} [Pairing N P] (zero : P)

omit [Whole N] [Pairing N P] in
lemma truth_word {holds : Bool} : (truth holds : Held N P) = .word (if holds then 1 else 0) := by
  cases holds <;> rfl

lemma evaluate_binary (op : Wasm.IntBinary) (a b : BitVec 32) (quotients : (∃ sign, op = .div sign) → Quotients N) :
    evaluate zero (.intBinary .i32 op) [(.word a : Held N P), .word b] = some (answered .word (Wasm.Word.binary op a b)) := by
  change some (number <$> binary op _ _) = _
  rw [exact_binary op a b quotients]
  cases Wasm.Word.binary op a b <;> rfl

lemma evaluate_compare (op : Wasm.IntCompare) (a b : BitVec 32) :
    evaluate zero (.intCompare .i32 op) [(.word a : Held N P), .word b]
      = some (.ok (.word (if Wasm.Word.compare op a b then 1 else 0))) := by
  change some (truth <$> compare op _ _) = _
  rw [exact_compare, ok_map, truth_word]

lemma evaluate_unary (op : Wasm.IntUnary) (a : BitVec 32) : evaluate zero (.intUnary .i32 op) [(.word a : Held N P)]
      = some (.ok (.word (Wasm.Word.unary op a))) := by
  change some (number <$> unary op _) = _
  rw [exact_unary, ok_map]
  rfl

lemma evaluate_test (a : BitVec 32) : evaluate zero (.intTest .i32) [(.word a : Held N P)]
      = some (.ok (.word (if a = 0 then 1 else 0))) := by
  change some (Except.ok (truth (isZero _))) = _
  rw [exact_is_zero, truth_word]
  simp only [decide_eq_true_eq]

lemma evaluate_extend8 (a : BitVec 32) : evaluate zero (.convert (.extend8 .i32)) [(.word a : Held N P)]
      = some (.ok (.word (Wasm.Word.extend 8 a))) := by
  have residue : a.toInt % 256 = (a.setWidth 8).toNat := low_bits a 8 (by norm_num)
  change some (number <$> extend8 _) = _
  rw [exact_extend8 residue, ok_map, Wasm.Word.extend, word, BitVec.toInt_signExtend_of_le (by norm_num)]

lemma evaluate_extend16 (a : BitVec 32) : evaluate zero (.convert (.extend16 .i32)) [(.word a : Held N P)]
      = some (.ok (.word (Wasm.Word.extend 16 a))) := by
  have residue : a.toInt % 2 ^ 16 = (a.setWidth 16).toNat := low_bits a 16 (by norm_num)
  change some (number <$> extend16 _) = _
  rw [exact_extend16 residue, ok_map, Wasm.Word.extend, word, BitVec.toInt_signExtend_of_le (by norm_num)]

end Held

lemma word_range (x : Int) : (∃ a, ofWord a = .number (x : Rat)) ↔ -2 ^ 31 ≤ x ∧ x < 2 ^ 31 := by
  constructor
  · rintro ⟨a, same⟩
    have value : a.toInt = x := by
      simpa only [ofWord, number.injEq, Int.cast_inj] using same
    rw [← value]
    exact ⟨BitVec.le_toInt a, BitVec.toInt_lt⟩
  · rintro ⟨least, most⟩
    refine ⟨BitVec.ofInt 32 x, ?_⟩
    rw [ofWord, BitVec.toInt_ofInt_eq_self (by norm_num) least most]

/-- Every operation on 32-bit integers is that of words, and a number stands for a word when it is an
integer from -2^31 up to 2^31. -/
theorem word_operations_exact (zero : Pair Rat) : (∀ (op : Wasm.IntBinary) (a b : BitVec 32),
      evaluate zero (.intBinary .i32 op) [.ofWord a, .ofWord b] = some (delivered .ofWord (Wasm.Word.binary op a b))) ∧
    (∀ (op : Wasm.IntCompare) (a b : BitVec 32), evaluate zero (.intCompare .i32 op) [.ofWord a, .ofWord b]
        = some (.ok (.ofWord (if Wasm.Word.compare op a b then 1 else 0)))) ∧
    (∀ (op : Wasm.IntUnary) (a : BitVec 32),
      evaluate zero (.intUnary .i32 op) [.ofWord a] = some (.ok (.ofWord (Wasm.Word.unary op a)))) ∧
    (∀ a : BitVec 32, evaluate zero (.intTest .i32) [.ofWord a]
      = some (.ok (.ofWord (if a = 0 then 1 else 0)))) ∧
    (∀ a : BitVec 32, evaluate zero (.convert (.extend8 .i32)) [.ofWord a]
      = some (.ok (.ofWord (Wasm.Word.extend 8 a)))) ∧
    (∀ a : BitVec 32, evaluate zero (.convert (.extend16 .i32)) [.ofWord a]
      = some (.ok (.ofWord (Wasm.Word.extend 16 a)))) ∧
    (∀ x : Int, (∃ a, ofWord a = .number (x : Rat)) ↔ -2 ^ 31 ≤ x ∧ x < 2 ^ 31) ∧
    Trap.text .integerDivideByZero = "integer divide by zero" ∧
    Trap.text .integerOverflow = "integer overflow" := by
  refine ⟨?_, evaluate_compare zero, evaluate_unary zero, evaluate_test zero, evaluate_extend8 zero,
    evaluate_extend16 zero, word_range, rfl, rfl⟩
  intro op a b
  rw [delivered_answered]
  exact evaluate_binary zero op a b fun _ => inferInstance

end WasmLua.Exec.I32
