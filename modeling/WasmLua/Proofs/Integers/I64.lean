import WasmLua.Proofs.Integers.I32

namespace WasmLua.Exec

open Numeric Pairing Held I32

class Keeping (N : outParam Type) (P : Type) [Pairing N P] : Prop where
  low_pack : ∀ x y : N, low (pack x y : P) = .ok x
  high_pack : ∀ x y : N, high (pack x y : P) = .ok y

instance {N : Type} : Keeping N (Pair N) where
  low_pack := fun _ _ => rfl
  high_pack := fun _ _ => rfl

namespace I64

def lowHalf (a : BitVec 64) : Nat := a.toNat % 2 ^ 32

def highHalf (a : BitVec 64) : Nat := a.toNat / 2 ^ 32

def halves (a : BitVec 64) : Pair Rat := ⟨((lowHalf a : Int) : Rat), ((highHalf a : Int) : Rat)⟩

lemma half_parts (a : BitVec 64) : lowHalf a + 2 ^ 32 * highHalf a = a.toNat ∧ lowHalf a < 2 ^ 32 ∧ highHalf a < 2 ^ 32 := by
  have := a.isLt
  unfold lowHalf highHalf
  omega

variable {N P : Type} [Numeric N] [Pairing N P] {x y : Int} {word : BitVec 64} {k width : Nat}

def Splits (pair : P) (word : BitVec 64) : Prop :=
  low pair = .ok (ofInt (lowHalf word) : N) ∧ high pair = .ok (ofInt (highHalf word) : N)

def Yields (result : Except Fault P) (word : BitVec 64) : Prop := ∃ pair, result = .ok pair ∧ Splits pair word

variable [Whole N] [Keeping N P] {p q : P} {a b : BitVec 64}

omit [Whole N] in
lemma pack_splits (least : 0 ≤ x) (most : x < 2 ^ 32) (sum : x + 2 ^ 32 * y = word.toNat) :
    Splits (pack (ofInt x) (ofInt y) : P) word := by
  have first : x = lowHalf word := by
    unfold lowHalf
    omega
  have second : y = highHalf word := by
    unfold highHalf
    omega
  rw [first, second]
  exact ⟨Keeping.low_pack .., Keeping.high_pack ..⟩

omit [Whole N] in
lemma pack_residue (least : 0 ≤ x) (most : x < 2 ^ 32) (residue : (x + 2 ^ 32 * y) % 2 ^ 64 = word.toNat) :
    Splits (pack (ofInt x) (ofInt (y % 2 ^ 32)) : P) word := by
  apply pack_splits least most
  rw [← residue]
  omega

lemma exact_sum (first : Splits p a) (second : Splits q b) : Yields (add p q) (a + b) := by
  have left := half_parts a
  have right := half_parts b
  simp (disch := omega) only [add, first.1, first.2, second.1, second.2, whole_two, Whole.add, Whole.le,
    Whole.sub, Whole.mod, ok_bind, decide_eq_true_eq]
  split
  all_goals
    refine ⟨_, rfl, pack_residue (by omega) (by omega) ?_⟩
    rw [BitVec.toNat_add]
    omega

lemma exact_difference (first : Splits p a) (second : Splits q b) : Yields (sub p q) (a - b) := by
  have left := half_parts a
  have right := half_parts b
  simp (disch := omega) only [sub, first.1, first.2, second.1, second.2, whole_two, Whole.add, Whole.lt,
    Whole.sub, Whole.mod, whole_plain, ok_bind, decide_eq_true_eq]
  split
  all_goals
    refine ⟨_, rfl, pack_residue (by omega) (by omega) ?_⟩
    rw [BitVec.toNat_sub]
    omega

lemma exact_limbs (least : 0 ≤ x) (most : x ≤ 2 ^ 53) : limbs (ofInt x : N) = .ok (ofInt (x % 2 ^ 16), ofInt (x / 2 ^ 16)) := by
  simp (disch := omega) only [limbs, whole_two, Whole.mod, Whole.sub, whole_cut _ 16 rfl, ok_bind]
  rfl

lemma exact_carry {next : Int} (least : 0 ≤ x) (most : x ≤ 2 ^ 36) (above : 0 ≤ next) (below : next ≤ 2 ^ 36) :
    carry (ofInt x : N) (ofInt next) = .ok (ofInt (x % 2 ^ 16), ofInt (next + x / 2 ^ 16)) := by
  simp (disch := omega) only [carry, whole_two, Whole.mod, Whole.sub, whole_cut _ 16 rfl, Whole.add, ok_bind]
  rfl

lemma carried_digits {c0 c1 c2 c3 : Int} : let d1 := c1 + c0 / 2 ^ 16
    let d2 := c2 + d1 / 2 ^ 16
    let d3 := c3 + d2 / 2 ^ 16
    (c0 % 2 ^ 16 + d1 % 2 ^ 16 * 2 ^ 16 + 2 ^ 32 * (d2 % 2 ^ 16 + d3 % 2 ^ 16 * 2 ^ 16))
      = (c0 + 2 ^ 16 * c1 + 2 ^ 32 * c2 + 2 ^ 48 * c3) % 2 ^ 64 := by
  intro d1 d2 d3
  omega

lemma product_residue {a0 a1 a2 a3 b0 b1 b2 b3 : Int} :
    (a0 * b0 + 2 ^ 16 * (a0 * b1 + a1 * b0) + 2 ^ 32 * (a0 * b2 + a1 * b1 + a2 * b0)
        + 2 ^ 48 * (a0 * b3 + a1 * b2 + a2 * b1 + a3 * b0)) % 2 ^ 64 = (a0 + 2 ^ 16 * a1 + 2 ^ 32 * (a2 + 2 ^ 16 * a3))
          * (b0 + 2 ^ 16 * b1 + 2 ^ 32 * (b2 + 2 ^ 16 * b3)) % 2 ^ 64 := by
  -- The products that are left out have a weight of at least 2^64.
  have spread : (a0 + 2 ^ 16 * a1 + 2 ^ 32 * (a2 + 2 ^ 16 * a3)) * (b0 + 2 ^ 16 * b1 + 2 ^ 32 * (b2 + 2 ^ 16 * b3))
      = a0 * b0 + 2 ^ 16 * (a0 * b1 + a1 * b0) + 2 ^ 32 * (a0 * b2 + a1 * b1 + a2 * b0)
        + 2 ^ 48 * (a0 * b3 + a1 * b2 + a2 * b1 + a3 * b0)
        + 2 ^ 64 * (a1 * b3 + a2 * b2 + a3 * b1 + 2 ^ 16 * (a2 * b3 + a3 * b2) + 2 ^ 32 * (a3 * b3)) := by
    ring
  rw [spread, Int.add_mul_emod_self_left]

lemma limbs_sum (a : BitVec 64) : (lowHalf a % 2 ^ 16 + 2 ^ 16 * (lowHalf a / 2 ^ 16)
        + 2 ^ 32 * (highHalf a % 2 ^ 16 + 2 ^ 16 * (highHalf a / 2 ^ 16)) : Int) = a.toNat := by
  have := half_parts a
  omega

lemma limb_product {x y : Int} (first : 0 ≤ x ∧ x < 2 ^ 16) (second : 0 ≤ y ∧ y < 2 ^ 16) : 0 ≤ x * y ∧ x * y ≤ 2 ^ 16 * 2 ^ 16 :=
  ⟨mul_nonneg first.1 second.1, mul_le_mul first.2.le second.2.le second.1 (by norm_num)⟩

lemma exact_product (first : Splits p a) (second : Splits q b) : Yields (mul p q) (a * b) := by
  have value : ((a * b).toNat : Int) = a.toNat * b.toNat % 2 ^ 64 := by
    rw [BitVec.toNat_mul]
    push_cast
    rfl
  rw [← limbs_sum a, ← limbs_sum b, ← product_residue, ← carried_digits] at value
  have limb (n : Nat) (small : n < 2 ^ 32) : (0 ≤ (n : Int) % 2 ^ 16 ∧ (n : Int) % 2 ^ 16 < 2 ^ 16) ∧
        0 ≤ (n : Int) / 2 ^ 16 ∧ (n : Int) / 2 ^ 16 < 2 ^ 16 := by omega
  have left := half_parts a
  have right := half_parts b
  simp (disch := omega) only [mul, first.1, first.2, second.1, second.2, exact_limbs, ok_bind]
  obtain ⟨a0, a1⟩ := limb (lowHalf a) left.2.1
  obtain ⟨a2, a3⟩ := limb (highHalf a) left.2.2
  obtain ⟨b0, b1⟩ := limb (lowHalf b) right.2.1
  obtain ⟨b2, b3⟩ := limb (highHalf b) right.2.2
  have p00 := limb_product a0 b0
  have p01 := limb_product a0 b1
  have p10 := limb_product a1 b0
  have p02 := limb_product a0 b2
  have p11 := limb_product a1 b1
  have p20 := limb_product a2 b0
  have p03 := limb_product a0 b3
  have p12 := limb_product a1 b2
  have p21 := limb_product a2 b1
  have p30 := limb_product a3 b0
  simp (disch := omega) only [Whole.mul, Whole.add, exact_carry, whole_two, Whole.mod, ok_bind]
  exact ⟨_, rfl, pack_splits (by omega) (by omega) value.symm⟩

lemma exact_bitwise (rule : Bool → Bool → Bool) (quiet : rule false false = false)
    (same : Nat.bitwise rule a.toNat b.toNat = word.toNat) (first : Splits p a) (second : Splits q b) :
    Yields (bitwise (nibbleTable rule) p q) word := by
  obtain ⟨-, lowA, highA⟩ := half_parts a
  obtain ⟨-, lowB, highB⟩ := half_parts b
  have parts := bitwise_split rule quiet 32 a.toNat b.toNat
  have small : Nat.bitwise rule (lowHalf a) (lowHalf b) < 2 ^ 32 := Nat.bitwise_lt_two_pow lowA lowB
  simp only [bitwise, first.1, first.2, second.1, second.2, ok_bind, I32.exact_bitwise rule quiet lowA lowB,
    I32.exact_bitwise rule quiet highA highB]
  refine ⟨_, rfl, pack_splits (by omega) (by exact_mod_cast small) ?_⟩
  rw [← same, parts]
  push_cast
  rfl

omit [Keeping N P] in
lemma exact_count (second : Splits q b) : count q = .ok (ofInt (b.toNat % 64 : Nat) : N) := by
  have divides : lowHalf b % 64 = b.toNat % 64 := Nat.mod_mod_of_dvd _ (by norm_num)
  rw [count, second.1, ok_bind, Whole.mod (by norm_num) (by norm_num), ← divides]
  push_cast
  rfl

lemma low_half_residue (a : BitVec 64) (k : Nat) (below : k ≤ 32) : lowHalf a % 2 ^ k = a.toNat % 2 ^ k :=
  Nat.mod_mod_of_dvd _ (pow_dvd_pow 2 below)

lemma scaled_digit (digit : Nat) {top factor total : Nat} (split : top * factor = total)
    (below : digit < top) : digit * factor + factor ≤ total := by
  rw [← split, ← Nat.succ_mul]
  exact Nat.mul_le_mul_right factor below

lemma shl_near {low : Nat} (high top factor : Nat) (split : top * factor = 2 ^ 32)
    (small : low < 2 ^ 32) : low % top * factor < 2 ^ 32 ∧ high % top * factor < 2 ^ 32 ∧
    low % top * factor + 2 ^ 32 * (high % top * factor + low / top) = (low + 2 ^ 32 * high) * factor % 2 ^ 64 := by
  have positive : 0 < top := by
    apply Nat.pos_of_ne_zero
    intro zero
    simp [zero] at split
  have first := scaled_digit (low % top) split (Nat.mod_lt _ positive)
  have second := scaled_digit (high % top) split (Nat.mod_lt _ positive)
  have carried : low / top < factor := by
    rwa [Nat.div_lt_iff_lt_mul positive, mul_comm, split]
  have spread : (low + 2 ^ 32 * high) * factor
      = low % top * factor + 2 ^ 32 * (high % top * factor + low / top) + 2 ^ 64 * (high / top) := by
    have weight : (2 : Nat) ^ 64 = 2 ^ 32 * (top * factor) := by rw [split]; norm_num
    rw [weight]
    nth_rewrite 1 [← Nat.mod_add_div low top, ← Nat.mod_add_div high top]
    rw [← split]
    ring
  rw [spread, Nat.add_mul_mod_self_left]
  generalize low % top * factor = lower at first
  generalize high % top * factor = upper at second
  generalize low / top = moved at carried
  refine ⟨by omega, by omega, ?_⟩
  rw [Nat.mod_eq_of_lt (by omega)]

lemma exact_shl (k : Nat) (below : k < 64) (first : Splits p a) : Yields (shl p (ofInt k : N)) (a <<< k) := by
  obtain ⟨sum, lowBound, highBound⟩ := half_parts a
  have bound := (a <<< k).isLt
  simp only [shl, whole_zero, decide_eq_true_eq, first.1, first.2, ok_bind, Whole.le]
  by_cases zero : k = 0
  · subst zero
    rw [if_pos (by omega), BitVec.shiftLeft_zero]
    exact ⟨p, rfl, first⟩
  rw [if_neg (by omega)]
  by_cases far : 32 ≤ k
  · have kept := power_small (64 - k) (by omega)
    have value : 2 ^ 32 * (lowHalf a % 2 ^ (64 - k) * 2 ^ (k - 32)) = (a <<< k).toNat := by
      rw [BitVec.toNat_shiftLeft, Nat.shiftLeft_eq, shifted_residue below.le,
        low_half_residue a (64 - k) (by omega), mul_left_comm, ← pow_add, Nat.add_sub_cancel' far]
    have product : (lowHalf a : Int) % 2 ^ (64 - k) * 2 ^ (k - 32) = (lowHalf a % 2 ^ (64 - k) * 2 ^ (k - 32) : Nat) := by
      push_cast
      rfl
    rw [if_pos (by omega), whole_rest 64 64 k rfl below.le (by norm_num), ok_bind, whole_power (by omega),
      ok_bind, Whole.mod (by omega) (by omega), ok_bind, whole_past 32 rfl far (by omega), ok_bind,
      whole_power (by omega), ok_bind, Whole.mul (by rw [product]; omega), ok_bind, product]
    exact ⟨_, rfl, pack_splits (by norm_num) (by norm_num) (by omega)⟩
  · have top := power_small (32 - k) (by omega)
    obtain ⟨small, room, value⟩ := shl_near (highHalf a) (2 ^ (32 - k)) (2 ^ k) (two_pow_split 32 k (by omega)).symm lowBound
    rw [sum, ← Nat.shiftLeft_eq a.toNat, ← BitVec.toNat_shiftLeft] at value
    have lower : (lowHalf a : Int) % 2 ^ (32 - k) * 2 ^ k = (lowHalf a % 2 ^ (32 - k) * 2 ^ k : Nat) := by
      push_cast
      rfl
    have upper : (highHalf a : Int) % 2 ^ (32 - k) * 2 ^ k = (highHalf a % 2 ^ (32 - k) * 2 ^ k : Nat) := by
      push_cast
      rfl
    have carried : (lowHalf a : Int) / 2 ^ (32 - k) = (lowHalf a / 2 ^ (32 - k) : Nat) := by
      push_cast
      rfl
    have rest : (lowHalf a : Int) - (lowHalf a : Int) % 2 ^ (32 - k) = (lowHalf a - lowHalf a % 2 ^ (32 - k) : Nat) := by
      rw [Int.natCast_sub (Nat.mod_le _ _)]
      push_cast
      rfl
    rw [if_neg (by omega), whole_rest 32 32 k rfl (by omega) (by norm_num), ok_bind, whole_power (by omega),
      ok_bind, Whole.mod (by omega) (by omega), ok_bind, Whole.sub (by omega), ok_bind,
      whole_cut _ _ rfl (by omega) (by omega), ok_bind, whole_power (by omega), ok_bind,
      Whole.mul (by rw [lower]; omega), ok_bind, Whole.mod (by omega) (by omega), ok_bind,
      Whole.mul (by rw [upper]; omega), ok_bind, lower, upper, carried, Whole.add (by omega), ok_bind]
    exact ⟨_, rfl, pack_splits (by omega) (by omega) (by omega)⟩

lemma shr_near (low high : Int) {top factor : Int} (split : top * factor = 2 ^ 32)
    (positive : 0 < factor) (least : 0 ≤ low) (most : low < 2 ^ 32) :
    0 ≤ low / factor + high % factor * top ∧ low / factor + high % factor * top < 2 ^ 32 ∧
    low / factor + high % factor * top + 2 ^ 32 * (high / factor) = (low + 2 ^ 32 * high) / factor := by
  have above : 0 < top := by
    by_contra negative
    have := mul_nonpos_of_nonpos_of_nonneg (not_lt.mp negative) positive.le
    omega
  have quotient : 0 ≤ low / factor := Int.ediv_nonneg least positive.le
  have room : low / factor < top := by
    rw [Int.ediv_lt_iff_lt_mul positive, split]
    exact most
  have digit : 0 ≤ high % factor := Int.emod_nonneg _ positive.ne'
  have digitBelow : high % factor + 1 ≤ factor := Int.emod_lt_of_pos _ positive
  have scaled : (high % factor + 1) * top ≤ factor * top := Int.mul_le_mul_of_nonneg_right digitBelow above.le
  have shifted : 0 ≤ high % factor * top := mul_nonneg digit above.le
  have whole : 2 ^ 32 * high = factor * (top * high) := by
    rw [← mul_assoc, mul_comm factor, split]
  have parts : top * high = high % factor * top + 2 ^ 32 * (high / factor) := by
    rw [← split]
    nth_rewrite 1 [← Int.emod_add_mul_ediv high factor]
    ring
  rw [add_mul, one_mul, mul_comm factor, split] at scaled
  rw [whole, Int.add_mul_ediv_left _ _ positive.ne', parts]
  generalize high % factor * top = moved at *
  generalize low / factor = rest at *
  refine ⟨by omega, by omega, by omega⟩

lemma place_split (k : Nat) (below : k ≤ 32) : (2 ^ (32 - k) * 2 ^ k : Int) = 2 ^ 32 := by
  exact_mod_cast (two_pow_split 32 k below).symm

lemma exact_shift_right (k : Nat) (below : k ≤ 32) (first : 0 ≤ x ∧ x < 2 ^ 32) : shiftDown (ofInt x : N) (ofInt y) (ofInt k)
      = .ok (ofInt (x / 2 ^ k + y % 2 ^ k * 2 ^ (32 - k)), ofInt (y % 2 ^ k)) := by
  have factor := power_small k below
  obtain ⟨least, most, -⟩ := shr_near x y (place_split k below) factor.1 first.1 first.2
  have moved : 0 ≤ y % 2 ^ k * 2 ^ (32 - k) := mul_nonneg (Int.emod_nonneg _ factor.1.ne') (by positivity)
  have quotient : 0 ≤ x / 2 ^ k := Int.ediv_nonneg first.1 factor.1.le
  rw [shiftDown, whole_power (by omega), ok_bind, Whole.mod (by omega) (by omega), ok_bind,
    whole_shift _ (by omega) (by omega), whole_rest 32 32 k rfl below (by norm_num), ok_bind,
    whole_power (by omega), ok_bind, Whole.mul (by omega), ok_bind, Whole.add (by omega)]
  rfl

lemma exact_shr_u (k : Nat) (below : k < 64) (first : Splits p a) : Yields (shrU p (ofInt k : N)) (a >>> k) := by
  obtain ⟨sum, lowBound, highBound⟩ := half_parts a
  simp only [shrU, whole_zero, decide_eq_true_eq, first.1, first.2, ok_bind, Whole.le]
  by_cases zero : k = 0
  · subst zero
    rw [if_pos (by omega), BitVec.ushiftRight_zero]
    exact ⟨p, rfl, first⟩
  rw [if_neg (by omega)]
  by_cases far : 32 ≤ k
  · have value : highHalf a / 2 ^ (k - 32) = (a >>> k).toNat := by
      rw [BitVec.toNat_ushiftRight, Nat.shiftRight_eq_div_pow, highHalf, Nat.div_div_eq_div_mul, ← pow_add, Nat.add_sub_cancel' far]
    have small : highHalf a / 2 ^ (k - 32) ≤ highHalf a := Nat.div_le_self _ _
    have cast : (highHalf a : Int) / 2 ^ (k - 32) = (highHalf a / 2 ^ (k - 32) : Nat) := by
      push_cast
      rfl
    rw [if_pos (by omega), whole_past 32 rfl far (by omega), ok_bind, whole_power (by omega), ok_bind,
      whole_shift _ (by omega) (by omega), cast]
    exact ⟨_, rfl, pack_splits (by omega) (by omega) (by omega)⟩
  · have factor := power_small k (by omega)
    obtain ⟨least, most, value⟩ := shr_near (lowHalf a) (highHalf a) (place_split k (by omega)) factor.1 (by omega) (by omega)
    have rest := Int.emod_nonneg (highHalf a) factor.1.ne'
    have less : (highHalf a : Int) % 2 ^ k ≤ highHalf a := by
      exact_mod_cast Nat.mod_le (highHalf a) (2 ^ k)
    rw [if_neg (by omega), exact_shift_right k (by omega) (by omega), ok_bind]
    rw [Whole.sub (by omega), ok_bind, whole_power (by omega), ok_bind, whole_cut _ _ rfl (by omega) (by omega), ok_bind]
    refine ⟨_, rfl, pack_splits least most ?_⟩
    rw [value, BitVec.toNat_ushiftRight, Nat.shiftRight_eq_div_pow, ← sum]
    push_cast
    rfl

def signedHigh (a : BitVec 64) : Int :=
  if 2 ^ 31 ≤ (highHalf a : Int) then highHalf a - 2 ^ 32 else highHalf a

lemma exact_signed_half : signedHalf (ofInt (highHalf a) : N) = .ok (ofInt (signedHigh a)) := by
  have := half_parts a
  simp (disch := omega) only [signedHalf, whole_two, Whole.le, ok_bind, decide_eq_true_eq, Whole.sub, signedHigh]
  split <;> rfl

lemma signed_high_range (a : BitVec 64) : -2 ^ 31 ≤ signedHigh a ∧ signedHigh a < 2 ^ 31 := by
  have := half_parts a
  unfold signedHigh
  split <;> omega

variable {a : BitVec 64}

lemma signed_sum : lowHalf a + 2 ^ 32 * signedHigh a = a.toInt := by
  have := half_parts a
  rw [BitVec.toInt_eq_toNat_cond]
  unfold signedHigh
  split <;> split <;> omega

lemma high_half_residue (a : BitVec 64) (k : Nat) (below : k ≤ 32) : (highHalf a : Int) % 2 ^ k = signedHigh a % 2 ^ k := by
  obtain ⟨rest, whole⟩ : (2 : Int) ^ k ∣ 2 ^ 32 := pow_dvd_pow 2 below
  unfold signedHigh
  split
  · rw [whole, Int.sub_mul_emod_self_left]
  · rfl

lemma quotient_range (positive : 0 < y) (least : -2 ^ 31 ≤ x) (most : x < 2 ^ 31) :
    -2 ^ 31 ≤ x / y ∧ x / y < 2 ^ 31 ∧ (x / y < 0 ↔ x < 0) := by
  refine ⟨?_, ?_, ?_⟩
  · rw [Int.le_ediv_iff_mul_le positive]
    nlinarith
  · rw [Int.ediv_lt_iff_lt_mul positive]
    nlinarith
  · rw [Int.ediv_lt_iff_lt_mul positive, zero_mul]

lemma exact_shr_s (below : k < 64) (first : Splits p a) : Yields (shrS p (ofInt k : N)) (a.sshiftRight k) := by
  obtain ⟨-, lowBound, highBound⟩ := half_parts a
  obtain ⟨lowest, highest⟩ := signed_high_range a
  have value : (a.toInt / 2 ^ k) % 2 ^ 64 = (a.sshiftRight k).toNat := by
    rw [← signed_residue, BitVec.toInt_sshiftRight, Int.shiftRight_eq_div_pow]
    push_cast
    rfl
  simp only [shrS, whole_zero, decide_eq_true_eq, first.1, first.2, ok_bind, exact_signed_half, Whole.le]
  by_cases zero : k = 0
  · subst zero
    rw [if_pos (by omega), BitVec.sshiftRight_zero]
    exact ⟨p, rfl, first⟩
  rw [if_neg (by omega)]
  by_cases far : 32 ≤ k
  · obtain ⟨least, most, sign⟩ := quotient_range (y := 2 ^ (k - 32)) (by positivity) lowest highest
    have moved : a.toInt / 2 ^ k = signedHigh a / 2 ^ (k - 32) := by
      have dropped : a.toInt / 2 ^ 32 = signedHigh a := by
        rw [← signed_sum]
        omega
      rw [← dropped, Int.ediv_ediv_of_nonneg (by norm_num), ← pow_add, Nat.add_sub_cancel' far]
    rw [moved] at value
    rw [if_pos (by omega)]
    simp (disch := omega) only [Whole.lt, ok_bind, whole_past 32 rfl far, whole_power, whole_shift, whole_two,
      Whole.mod, Whole.sub, decide_eq_true_eq]
    split
    all_goals exact ⟨_, rfl, pack_splits (by omega) (by omega) (by omega)⟩
  · have factor := power_small k (by omega)
    obtain ⟨least, most, shifted⟩ := shr_near (lowHalf a) (signedHigh a) (place_split k (by omega)) factor.1 (by omega) (by omega)
    rw [if_neg (by omega), exact_shift_right k (by omega) (by omega), ok_bind]
    simp only []
    rw [whole_power (by omega), ok_bind, whole_shift _ (by omega) (by omega), whole_two,
      Whole.mod (by norm_num) (by norm_num), ok_bind, high_half_residue a k (by omega)]
    refine ⟨_, rfl, pack_residue least most ?_⟩
    rw [shifted, signed_sum, value]

lemma join_parts (below : k ≤ 64) (left : 2 ^ k ∣ a.toNat) (right : b.toNat < 2 ^ k)
    (sum : a.toNat + b.toNat = word.toNat) (first : Splits p a) (second : Splits q b) : Yields (join p q) word := by
  have parts := half_parts a
  have others := half_parts b
  have apart : lowHalf a + lowHalf b < 2 ^ 32 := by
    by_cases far : 32 ≤ k
    · have clear : lowHalf a = 0 := Nat.mod_eq_zero_of_dvd ((pow_dvd_pow 2 far).trans left)
      omega
    · have short : lowHalf b ≤ b.toNat := Nat.mod_le _ _
      have multiple : 2 ^ k ∣ lowHalf a := (Nat.dvd_mod_iff (pow_dvd_pow 2 (by omega))).mpr left
      obtain ⟨rest, whole⟩ := multiple
      have split := (two_pow_split 32 k (by omega)).symm
      have digit : rest < 2 ^ (32 - k) := by
        have bound := parts.2.1
        rw [whole, ← split, mul_comm] at bound
        exact Nat.lt_of_mul_lt_mul_right bound
      have room := scaled_digit rest split digit
      rw [mul_comm, ← whole] at room
      omega
  simp (disch := omega) only [join, first.1, first.2, second.1, second.2, Whole.add, ok_bind]
  exact ⟨_, rfl, pack_splits (by omega) (by omega) (by omega)⟩

lemma exact_join (k : Nat) (below : k ≤ 64) (first : Splits p (a <<< k))
    (second : Splits q (a >>> (64 - k))) : Yields (join p q) (a <<< k ||| a >>> (64 - k)) := by
  have left : (a <<< k).toNat = a.toNat % 2 ^ (64 - k) * 2 ^ k := by
    rw [BitVec.toNat_shiftLeft, Nat.shiftLeft_eq, shifted_residue below]
  have right : (a >>> (64 - k)).toNat < 2 ^ k := by
    rw [BitVec.toNat_ushiftRight, Nat.shiftRight_eq_div_pow, Nat.div_lt_iff_lt_mul (by positivity), mul_comm, ← two_pow_split 64 k below]
    exact a.isLt
  refine join_parts below ⟨_, left.trans (mul_comm ..)⟩ right ?_ first second
  rw [BitVec.toNat_or, left, ← Nat.shiftLeft_eq, Nat.shiftLeft_add_eq_or_of_lt right]

lemma exact_rotl (below : k < 64) (first : Splits p a) : Yields (rotl p (ofInt k : N)) (a.rotateLeft k) := by
  simp only [rotl, whole_zero, decide_eq_true_eq]
  by_cases zero : k = 0
  · subst zero
    have same : a.rotateLeft 0 = a := by simp [BitVec.rotateLeft_def, BitVec.ushiftRight_eq_zero]
    rw [if_pos (by omega), same]
    exact ⟨p, rfl, first⟩
  obtain ⟨left, shifted, upper⟩ := exact_shl k below first
  obtain ⟨right, moved, lower⟩ := exact_shr_u (64 - k) (by omega) first
  rw [if_neg (by omega), shifted, ok_bind, whole_rest 64 64 k rfl below.le (by norm_num), ok_bind, moved,
    ok_bind, BitVec.rotateLeft_def, Nat.mod_eq_of_lt below]
  exact exact_join k below.le upper lower

lemma exact_rotr (below : k < 64) (first : Splits p a) : Yields (rotr p (ofInt k : N)) (a.rotateRight k) := by
  simp only [rotr, whole_zero, decide_eq_true_eq]
  by_cases zero : k = 0
  · subst zero
    have same : a.rotateRight 0 = a := by simp [BitVec.rotateRight_def, BitVec.shiftLeft_eq_zero]
    rw [if_pos (by omega), same]
    exact ⟨p, rfl, first⟩
  obtain ⟨left, shifted, upper⟩ := exact_shl (64 - k) (by omega) first
  obtain ⟨right, moved, lower⟩ := exact_shr_u k below first
  have rest : 64 - (64 - k) = k := Nat.sub_sub_self below.le
  have joined := exact_join (64 - k) (by omega) upper (rest.symm ▸ lower)
  rw [rest] at joined
  rw [if_neg (by omega), whole_rest 64 64 k rfl below.le (by norm_num), ok_bind, shifted, ok_bind, moved,
    ok_bind, BitVec.rotateRight_def, Nat.mod_eq_of_lt below, BitVec.or_comm]
  exact joined

def lowWord (a : BitVec 64) : BitVec 32 := a.setWidth 32

def highWord (a : BitVec 64) : BitVec 32 := (a >>> 32).setWidth 32

lemma low_word_nat : (lowWord a).toNat = lowHalf a := BitVec.toNat_setWidth ..

lemma high_word_nat : (highWord a).toNat = highHalf a := by
  have := (half_parts a).2.2
  rw [highWord, BitVec.toNat_setWidth, BitVec.toNat_ushiftRight, Nat.shiftRight_eq_div_pow]
  exact Nat.mod_eq_of_lt this

lemma low_word_residue (a : BitVec 64) : (lowHalf a : Int) % 2 ^ 32 = (lowWord a).toNat := by
  have := half_parts a
  rw [low_word_nat]
  omega

lemma high_word_residue (a : BitVec 64) : (highHalf a : Int) % 2 ^ 32 = (highWord a).toNat := by
  have := half_parts a
  rw [high_word_nat]
  omega

lemma clz_unique {a : BitVec width} (below : k < width) (least : 2 ^ (width - 1 - k) ≤ a.toNat)
    (most : a.toNat < 2 ^ (width - k)) : a.clz.toNat = k := by
  have nonzero : a ≠ 0 := by
    intro zero
    have : 0 < 2 ^ (width - 1 - k) := by positivity
    simp [zero] at least
  have least' := BitVec.two_pow_sub_clz_le_toNat_of_ne_zero (by omega) nonzero
  have most' : a.toNat < 2 ^ (width - a.clz.toNat) := BitVec.toNat_lt_two_pow_sub_clz
  have first := (Nat.pow_lt_pow_iff_right (show 1 < 2 by norm_num)).mp (least.trans_lt most')
  have second := (Nat.pow_lt_pow_iff_right (show 1 < 2 by norm_num)).mp (least'.trans_lt most)
  omega

lemma clz_bounds {a : BitVec 32} (nonzero : a ≠ 0) :
    a.clz.toNat < 32 ∧ 2 ^ (31 - a.clz.toNat) ≤ a.toNat ∧ a.toNat < 2 ^ (32 - a.clz.toNat) :=
  ⟨BitVec.lt_def.mp (BitVec.clz_lt_iff_ne_zero.mpr nonzero),
    BitVec.two_pow_sub_clz_le_toNat_of_ne_zero (by norm_num) nonzero, BitVec.toNat_lt_two_pow_sub_clz⟩

lemma word_zero {a : BitVec 32} : a = 0 ↔ a.toNat = 0 := by
  rw [← BitVec.toNat_inj]
  rfl

lemma clz_halves (a : BitVec 64) :
    a.clz.toNat = if highHalf a = 0 then 32 + (lowWord a).clz.toNat else (highWord a).clz.toNat := by
  obtain ⟨sum, lowBound, -⟩ := half_parts a
  by_cases high : highHalf a = 0
  · rw [if_pos high]
    by_cases low : lowHalf a = 0
    · have empty : a = 0 := BitVec.eq_of_toNat_eq (by rw [← sum, high, low]; rfl)
      subst empty
      rfl
    · have nonzero : lowWord a ≠ 0 := by rwa [ne_eq, word_zero, low_word_nat]
      obtain ⟨below, least, most⟩ := clz_bounds nonzero
      rw [low_word_nat] at least most
      apply clz_unique
      · omega
      · rw [show 64 - 1 - (32 + (lowWord a).clz.toNat) = 31 - (lowWord a).clz.toNat by omega]
        omega
      · rw [show 64 - (32 + (lowWord a).clz.toNat) = 32 - (lowWord a).clz.toNat by omega]
        omega
  · rw [if_neg high]
    have nonzero : highWord a ≠ 0 := by rwa [ne_eq, word_zero, high_word_nat]
    obtain ⟨below, least, most⟩ := clz_bounds nonzero
    rw [high_word_nat] at least most
    apply clz_unique
    · omega
    · rw [show 64 - 1 - (highWord a).clz.toNat = 32 + (31 - (highWord a).clz.toNat) by omega, pow_add]
      omega
    · rw [show 64 - (highWord a).clz.toNat = 32 + (32 - (highWord a).clz.toNat) by omega, pow_add]
      omega

lemma odd_part {c r s : Nat} (same : 2 ^ k * r = 2 ^ c * s) (odd : r % 2 = 1) : c ≤ k := by
  by_contra less
  have split : 2 ^ c = 2 ^ k * (2 * 2 ^ (c - k - 1)) := by
    rw [← pow_succ', ← pow_add]
    congr 1
    omega
  rw [split, mul_assoc, Nat.mul_right_inj (by positivity), mul_assoc] at same
  omega

lemma ctz_unique {a : BitVec width} (rest : Nat) (whole : a.toNat = 2 ^ k * rest) (odd : rest % 2 = 1) : a.ctz.toNat = k := by
  have nonzero : a ≠ 0 := by
    intro zero
    have positive : 0 < 2 ^ k * rest := by
      have : 0 < rest := by omega
      positivity
    simp [zero] at whole
    omega
  obtain ⟨other, split, alsoOdd⟩ := ctz_split nonzero
  have same := whole.symm.trans split
  exact Nat.le_antisymm (odd_part same odd) (odd_part same.symm alsoOdd)

lemma ctz_halves (a : BitVec 64) :
    a.ctz.toNat = if lowHalf a = 0 then 32 + (highWord a).ctz.toNat else (lowWord a).ctz.toNat := by
  obtain ⟨sum, -, -⟩ := half_parts a
  by_cases low : lowHalf a = 0
  · rw [if_pos low]
    by_cases high : highHalf a = 0
    · have empty : a = 0 := BitVec.eq_of_toNat_eq (by rw [← sum, high, low]; rfl)
      have highEmpty : highWord a = 0 := by rwa [word_zero, high_word_nat]
      rw [empty, ctz_zero, ← empty, highEmpty, ctz_zero]
      rfl
    · have nonzero : highWord a ≠ 0 := by rwa [ne_eq, word_zero, high_word_nat]
      obtain ⟨rest, whole, odd⟩ := ctz_split nonzero
      rw [high_word_nat] at whole
      apply ctz_unique rest _ odd
      rw [← sum, low, zero_add, whole, pow_add, mul_assoc]
  · rw [if_neg low]
    have nonzero : lowWord a ≠ 0 := by rwa [ne_eq, word_zero, low_word_nat]
    obtain ⟨rest, whole, odd⟩ := ctz_split nonzero
    have below : (lowWord a).ctz.toNat < 32 := BitVec.lt_def.mp (BitVec.ctz_lt_iff_ne_zero.mpr nonzero)
    rw [low_word_nat] at whole
    apply ctz_unique (rest + 2 * (2 ^ (31 - (lowWord a).ctz.toNat) * highHalf a))
    · have weight : 2 ^ 32 = 2 ^ (lowWord a).ctz.toNat * (2 * 2 ^ (31 - (lowWord a).ctz.toNat)) := by
        rw [← pow_succ', ← pow_add]
        congr 1
        omega
      rw [← sum, whole, weight]
      ring
    · omega

lemma cpop_halves (a : BitVec 64) : a.cpop.toNat = (lowWord a).cpop.toNat + (highWord a).cpop.toNat := by
  have whole : a = (highWord a ++ lowWord a : BitVec (32 + 32)) := by
    apply BitVec.eq_of_toNat_eq
    have bound : (lowWord a).toNat < 2 ^ 32 := (lowWord a).isLt
    rw [BitVec.toNat_append, ← Nat.shiftLeft_add_eq_or_of_lt bound, low_word_nat, high_word_nat, Nat.shiftLeft_eq, ← (half_parts a).1]
    ring
  rw [congrArg BitVec.cpop whole]
  exact BitVec.toNat_cpop_append.trans (add_comm ..)

omit [Whole N] in
lemma exact_small (same : word.toNat = k) (below : k < 2 ^ 32) : Splits (small (ofInt k) : P) word :=
  pack_splits (by omega) (by omega) (by omega)

lemma exact_unary {op : Wasm.IntUnary} (first : Splits p a) : Yields (unary op p) (Wasm.Word.unary op a) := by
  have lower := low_word_residue a
  have upper := high_word_residue a
  cases op with
  | clz =>
    have bound := BitVec.le_def.mp (BitVec.clz_le (x := lowWord a))
    have other := BitVec.le_def.mp (BitVec.clz_le (x := highWord a))
    have count := clz_halves a
    simp (disch := (simp at bound; omega)) only [unary, first.1, first.2, ok_bind, whole_zero,
      decide_eq_true_eq, exact_clz lower, exact_clz upper, Whole.add]
    by_cases high : highHalf a = 0
    · rw [if_pos high] at count
      rw [if_pos (by omega)]
      exact ⟨_, rfl, by exact_mod_cast exact_small (P := P) count (by simp at bound; omega)⟩
    · rw [if_neg high] at count
      rw [if_neg (by omega)]
      exact ⟨_, rfl, exact_small count (by simp at other; omega)⟩
  | ctz =>
    have bound := ctz_le (highWord a)
    have other := ctz_le (lowWord a)
    have count := ctz_halves a
    simp (disch := omega) only [unary, first.1, first.2, ok_bind, whole_zero, decide_eq_true_eq,
      exact_ctz lower, exact_ctz upper, Whole.add]
    by_cases low : lowHalf a = 0
    · rw [if_pos low] at count
      rw [if_pos (by omega)]
      exact ⟨_, rfl, by exact_mod_cast exact_small (P := P) count (by omega)⟩
    · rw [if_neg low] at count
      rw [if_neg (by omega)]
      exact ⟨_, rfl, exact_small count (by omega)⟩
  | popcnt =>
    have bound := BitVec.toNat_cpop_le a
    have count := cpop_halves a
    simp (disch := omega) only [unary, first.1, first.2, ok_bind, exact_popcnt lower, exact_popcnt upper, Whole.add]
    exact ⟨_, rfl, by exact_mod_cast exact_small (P := P) count (by omega)⟩

lemma halves_eq (a b : BitVec 64) : a = b ↔ lowHalf a = lowHalf b ∧ highHalf a = highHalf b := by
  have first := half_parts a
  have second := half_parts b
  constructor
  · intro same
    rw [same]
    exact ⟨rfl, rfl⟩
  · rintro ⟨low, high⟩
    apply BitVec.eq_of_toNat_eq
    omega

omit [Keeping N P] in
lemma exact_same (first : Splits p a) (second : Splits q b) : same p q = .ok (decide (a = b)) := by
  simp only [same, first.1, first.2, second.1, second.2, ok_bind, Whole.eq, decide_eq_true_eq, Int.natCast_inj, halves_eq a b]
  by_cases low : lowHalf a = lowHalf b
  · rw [if_pos low]
    simp only [low, true_and]
    rfl
  · rw [if_neg low]
    simp only [low, false_and]
    rfl

omit [Keeping N P] in
lemma exact_is_zero (first : Splits p a) : isZero p = .ok (decide (a = 0)) := by
  have same : a = 0 ↔ lowHalf a = 0 ∧ highHalf a = 0 := halves_eq a 0
  rw [isZero, first.1, ok_bind, first.2, ok_bind, whole_zero, whole_zero]
  simp only [decide_eq_true_eq]
  split
  · exact congrArg Except.ok (decide_eq_decide.mpr (by rw [same]; omega))
  · exact congrArg Except.ok (decide_eq_false (by rw [same]; omega)).symm

lemma exact_order (first second x y : Int) (low : 0 ≤ x ∧ x < 2 ^ 32) (other : 0 ≤ y ∧ y < 2 ^ 32) :
    (if first < second then .ok true else if first = second then .ok (decide (x < y)) else .ok false)
      = (.ok (decide (x + 2 ^ 32 * first < y + 2 ^ 32 * second)) : Except Fault Bool) := by
  split
  · congr 1
    symm
    rw [decide_eq_true_eq]
    omega
  · split
    · congr 2
      apply propext
      omega
    · congr 1
      symm
      rw [decide_eq_false_iff_not]
      omega

omit [Keeping N P] in
lemma exact_lt_u (first : Splits p a) (second : Splits q b) : ltU p q = .ok (a.ult b) := by
  obtain ⟨left, lowA, -⟩ := half_parts a
  obtain ⟨right, lowB, -⟩ := half_parts b
  have order := exact_order (highHalf a) (highHalf b) (lowHalf a) (lowHalf b) (by omega) (by omega)
  simp only [ltU, first.1, first.2, second.1, second.2, ok_bind, Whole.lt, Whole.eq, decide_eq_true_eq]
  refine order.trans ?_
  rw [BitVec.ult, ← left, ← right]
  exact congrArg Except.ok (decide_eq_decide.mpr (by omega))

omit [Keeping N P] in
lemma exact_lt_s (first : Splits p a) (second : Splits q b) : ltS p q = .ok (a.slt b) := by
  obtain ⟨-, lowA, -⟩ := half_parts a
  obtain ⟨-, lowB, -⟩ := half_parts b
  have order := exact_order (signedHigh a) (signedHigh b) (lowHalf a) (lowHalf b) (by omega) (by omega)
  simp only [ltS, first.1, first.2, second.1, second.2, ok_bind, exact_signed_half, Whole.lt, Whole.eq, decide_eq_true_eq]
  refine order.trans ?_
  rw [BitVec.slt, signed_sum, signed_sum]

omit [Keeping N P] in
lemma exact_compare {op : Wasm.IntCompare} (first : Splits p a) (second : Splits q b) :
    compare op p q = .ok (Wasm.Word.compare op a b) := by
  cases op with
  | eq => rw [compare, exact_same first second, Wasm.Word.compare, beq_eq_decide]
  | ne => rw [compare, exact_same first second, ok_map, Wasm.Word.compare, bne, beq_eq_decide]
  | lt sign =>
    cases sign with
    | signed => exact exact_lt_s first second
    | unsigned => exact exact_lt_u first second
  | gt sign =>
    cases sign with
    | signed => exact exact_lt_s second first
    | unsigned => exact exact_lt_u second first
  | le sign =>
    cases sign with
    | signed => rw [compare, exact_lt_s second first, ok_map, Wasm.Word.compare, BitVec.sle_eq_not_slt]
    | unsigned => rw [compare, exact_lt_u second first, ok_map, Wasm.Word.compare, BitVec.ule_eq_not_ult]
  | ge sign =>
    cases sign with
    | signed => rw [compare, exact_lt_s first second, ok_map, Wasm.Word.compare, BitVec.sle_eq_not_slt]
    | unsigned => rw [compare, exact_lt_u first second, ok_map, Wasm.Word.compare, BitVec.ule_eq_not_ult]

lemma exact_extend_s (least : -2 ^ 31 ≤ x) (most : x < 2 ^ 31) (same : word.toInt = x) :
    Yields (extendS (ofInt x : N) : Except Fault P) word := by
  have residue := signed_residue word
  rw [same] at residue
  simp (disch := omega) only [extendS, whole_two, Whole.lt, ok_bind, decide_eq_true_eq, Whole.add, Whole.sub, whole_plain, small]
  split
  all_goals exact ⟨_, rfl, pack_splits (by omega) (by omega) (by omega)⟩

lemma exact_sign_extension (width : Nat) (short : width ≤ 32) (part : BitVec width) :
    Yields (extendS (ofInt part.toInt : N) : Except Fault P) (part.signExtend 64) := by
  have bound : (2 : Int) ^ width ≤ 2 ^ 32 := pow_le_pow_right₀ (by norm_num) short
  have least := BitVec.le_two_mul_toInt (x := part)
  have most := BitVec.two_mul_toInt_lt (x := part)
  exact exact_extend_s (by omega) (by omega) (BitVec.toInt_signExtend_of_le (by omega))

lemma exact_extend_u (a : BitVec 32) : Yields (extendU (ofInt a.toInt : N) : Except Fault P) (a.setWidth 64) := by
  have value : (a.setWidth 64).toNat = a.toNat := BitVec.toNat_setWidth_of_le (by norm_num)
  rw [extendU, whole_two, Whole.mod (by norm_num) (by norm_num), ok_bind, signed_residue]
  exact ⟨_, rfl, exact_small value a.isLt⟩

omit [Keeping N P] in
lemma exact_wrap (first : Splits p a) : wrap p = .ok (ofInt (a.setWidth 32).toInt : N) := by
  rw [wrap, first.1, ok_bind]
  exact I32.exact_wrap (low_word_residue a)

lemma exact_extend8 (first : Splits p a) : Yields (extend8 p) (Wasm.Word.extend 8 a) := by
  have residue : (lowHalf a : Int) % 256 = (a.setWidth 8).toNat := by
    exact_mod_cast low_half_residue a 8 (by norm_num)
  rw [extend8, first.1, ok_bind, I32.exact_extend8 residue, ok_bind]
  exact exact_sign_extension 8 (by norm_num) _

lemma exact_extend16 (first : Splits p a) : Yields (extend16 p) (Wasm.Word.extend 16 a) := by
  have residue : (lowHalf a : Int) % 2 ^ 16 = (a.setWidth 16).toNat := by
    exact_mod_cast low_half_residue a 16 (by norm_num)
  rw [extend16, first.1, ok_bind, I32.exact_extend16 residue, ok_bind]
  exact exact_sign_extension 16 (by norm_num) _

lemma exact_extend32 (first : Splits p a) : Yields (extend32 p) (Wasm.Word.extend 32 a) := by
  rw [extend32, first.1, ok_bind, I32.exact_wrap (low_word_residue a), ok_bind]
  exact exact_sign_extension 32 (by norm_num) _

lemma exact_binary (zero : P) (op : Wasm.IntBinary) (first : Splits p a) (second : Splits q b)
    (division : ∀ sign, op ≠ .div sign) (remainder : ∀ sign, op ≠ .rem sign) :
    ∃ word, Wasm.Word.binary op a b = .ok word ∧ Yields (binary zero op p q) word := by
  have below : b.toNat % 64 < 64 := by omega
  cases op with
  | add => exact ⟨_, rfl, exact_sum first second⟩
  | sub => exact ⟨_, rfl, exact_difference first second⟩
  | mul => exact ⟨_, rfl, exact_product first second⟩
  | div sign => exact absurd rfl (division sign)
  | rem sign => exact absurd rfl (remainder sign)
  | and => exact ⟨a &&& b, rfl, exact_bitwise and rfl rfl first second⟩
  | or => exact ⟨a ||| b, rfl, exact_bitwise or rfl rfl first second⟩
  | xor => exact ⟨a ^^^ b, rfl, exact_bitwise xor rfl rfl first second⟩
  | shl =>
    rw [binary, exact_count second, ok_bind]
    exact ⟨_, rfl, exact_shl _ below first⟩
  | shr sign =>
    cases sign with
    | signed =>
      rw [binary, exact_count second, ok_bind]
      exact ⟨_, rfl, exact_shr_s below first⟩
    | unsigned =>
      rw [binary, exact_count second, ok_bind]
      exact ⟨_, rfl, exact_shr_u _ below first⟩
  | rotl =>
    rw [binary, exact_count second, ok_bind]
    exact ⟨_, rfl, exact_rotl below first⟩
  | rotr =>
    rw [binary, exact_count second, ok_bind]
    exact ⟨_, rfl, exact_rotr below first⟩

section Held

def parts (a : BitVec 64) : Pair N := ⟨ofInt (lowHalf a), ofInt (highHalf a)⟩

omit [Whole N] in
lemma pair_splits (a : BitVec 64) : Splits (parts a : Pair N) a := ⟨rfl, rfl⟩

omit [Whole N] in
lemma evaluated {result : Except Fault (Pair N)} (yields : Yields result a) : some (pair <$> result) = some (.ok (.long a)) := by
  obtain ⟨⟨low, high⟩, rfl, first, second⟩ := yields
  cases first
  cases second
  rfl

variable (zero : Pair N)

lemma evaluate_binary (op : Wasm.IntBinary) (a b : BitVec 64) (other : ∀ sign, op ≠ .div sign ∧ op ≠ .rem sign) :
    evaluate zero (.intBinary .i64 op) [.long a, .long b] = some (answered .long (Wasm.Word.binary op a b)) := by
  obtain ⟨word, result, yields⟩ := exact_binary zero op (pair_splits a) (pair_splits b)
    (fun sign => (other sign).1) fun sign => (other sign).2
  rw [result]
  exact evaluated yields

lemma evaluate_compare (op : Wasm.IntCompare) (a b : BitVec 64) : evaluate zero (.intCompare .i64 op) [.long a, .long b]
      = some (.ok (.word (if Wasm.Word.compare op a b then 1 else 0))) := by
  change some (truth <$> compare op (parts a) (parts b)) = _
  rw [exact_compare (pair_splits a) (pair_splits b), ok_map, truth_word]

lemma evaluate_unary (op : Wasm.IntUnary) (a : BitVec 64) :
    evaluate zero (.intUnary .i64 op) [.long a] = some (.ok (.long (Wasm.Word.unary op a))) :=
  evaluated (exact_unary (pair_splits a))

lemma evaluate_test (a : BitVec 64) : evaluate zero (.intTest .i64) [.long a] = some (.ok (.word (if a = 0 then 1 else 0))) := by
  change some (truth <$> isZero (parts a)) = _
  rw [exact_is_zero (pair_splits a), ok_map, truth_word]
  simp only [decide_eq_true_eq]

lemma evaluate_extend8 (a : BitVec 64) :
    evaluate zero (.convert (.extend8 .i64)) [.long a] = some (.ok (.long (Wasm.Word.extend 8 a))) :=
  evaluated (exact_extend8 (pair_splits a))

lemma evaluate_extend16 (a : BitVec 64) :
    evaluate zero (.convert (.extend16 .i64)) [.long a] = some (.ok (.long (Wasm.Word.extend 16 a))) :=
  evaluated (exact_extend16 (pair_splits a))

lemma evaluate_wrap (a : BitVec 64) : evaluate zero (.convert .wrap) [.long a] = some (.ok (.word (a.setWidth 32))) := by
  change some (number <$> wrap (parts a)) = _
  rw [exact_wrap (pair_splits a), ok_map]
  rfl

end Held

lemma long_range (x y : Int) : (∃ a, ofLong a = .pair ⟨(x : Rat), (y : Rat)⟩) ↔ (0 ≤ x ∧ x < 2 ^ 32) ∧ 0 ≤ y ∧ y < 2 ^ 32 := by
  constructor
  · rintro ⟨a, same⟩
    obtain ⟨-, first, second⟩ := half_parts a
    simp only [ofLong, pair.injEq, Pair.mk.injEq, Int.cast_inj] at same
    obtain ⟨low, high⟩ := same
    unfold lowHalf at first
    unfold highHalf at second
    omega
  · rintro ⟨⟨lowLeast, lowMost⟩, highLeast, highMost⟩
    refine ⟨BitVec.ofNat 64 (x + 2 ^ 32 * y).toNat, ?_⟩
    have value : (BitVec.ofNat 64 (x + 2 ^ 32 * y).toNat).toNat = (x + 2 ^ 32 * y).toNat := by
      rw [BitVec.toNat_ofNat]
      omega
    rw [ofLong, value, pair.injEq, Pair.mk.injEq, Int.cast_inj, Int.cast_inj]
    omega

/-- Every operation on 64-bit integers but division and remainder is that of words, as are the
conversions between 32 and 64 bits. A pair stands for a word when its halves are integers from 0 up
to 2^32. -/
theorem long_operations_exact (zero : Pair Rat) : (∀ (op : Wasm.IntBinary) (a b : BitVec 64), (∀ sign, op ≠ .div sign ∧ op ≠ .rem sign) →
      evaluate zero (.intBinary .i64 op) [.ofLong a, .ofLong b] = some (delivered .ofLong (Wasm.Word.binary op a b))) ∧
    (∀ (op : Wasm.IntCompare) (a b : BitVec 64), evaluate zero (.intCompare .i64 op) [.ofLong a, .ofLong b]
        = some (.ok (.ofWord (if Wasm.Word.compare op a b then 1 else 0)))) ∧
    (∀ (op : Wasm.IntUnary) (a : BitVec 64),
      evaluate zero (.intUnary .i64 op) [.ofLong a] = some (.ok (.ofLong (Wasm.Word.unary op a)))) ∧
    (∀ a : BitVec 64, evaluate zero (.intTest .i64) [.ofLong a]
      = some (.ok (.ofWord (if a = 0 then 1 else 0)))) ∧
    (∀ a : BitVec 64, evaluate zero (.convert (.extend8 .i64)) [.ofLong a]
      = some (.ok (.ofLong (Wasm.Word.extend 8 a)))) ∧
    (∀ a : BitVec 64, evaluate zero (.convert (.extend16 .i64)) [.ofLong a]
      = some (.ok (.ofLong (Wasm.Word.extend 16 a)))) ∧
    (∀ a : BitVec 64, evaluate zero (.convert .extend32) [.ofLong a]
      = some (.ok (.ofLong (Wasm.Word.extend 32 a)))) ∧
    (∀ a : BitVec 32, evaluate zero (.convert (.extend .signed)) [.ofWord a]
      = some (.ok (.ofLong (a.signExtend 64)))) ∧
    (∀ a : BitVec 32, evaluate zero (.convert (.extend .unsigned)) [.ofWord a]
      = some (.ok (.ofLong (a.setWidth 64)))) ∧
    (∀ a : BitVec 64, evaluate zero (.convert .wrap) [.ofLong a]
      = some (.ok (.ofWord (a.setWidth 32)))) ∧
    (∀ x y : Int, (∃ a, ofLong a = .pair ⟨(x : Rat), (y : Rat)⟩)
      ↔ (0 ≤ x ∧ x < 2 ^ 32) ∧ 0 ≤ y ∧ y < 2 ^ 32) ∧
    (∀ x : Int, (∃ a, ofWord a = .number (x : Rat)) ↔ -2 ^ 31 ≤ x ∧ x < 2 ^ 31) := by
  refine ⟨?_, evaluate_compare zero, evaluate_unary zero, evaluate_test zero, evaluate_extend8 zero,
    evaluate_extend16 zero, fun a => evaluated (exact_extend32 (pair_splits a)),
    fun a => evaluated (exact_sign_extension 32 (by norm_num) a), fun a => evaluated (exact_extend_u a),
    evaluate_wrap zero, long_range, word_range⟩
  intro op a b other
  rw [delivered_answered]
  exact evaluate_binary zero op a b other

theorem long_operations_rotate : (∀ sign, Wasm.IntBinary.rotl ≠ .div sign ∧ Wasm.IntBinary.rotl ≠ .rem sign) ∧
    evaluate ⟨0, 0⟩ (.intBinary .i64 .rotl) [.ofLong 0x8000000180000001, .ofLong 0x41]
      = some (delivered .ofLong (Wasm.Word.binary .rotl 0x8000000180000001 0x41)) := by
  have other : ∀ sign, Wasm.IntBinary.rotl ≠ .div sign ∧ Wasm.IntBinary.rotl ≠ .rem sign := by
    intro sign
    cases sign <;> decide
  exact ⟨other, (long_operations_exact ⟨0, 0⟩).1 .rotl _ _ other⟩

end I64

end WasmLua.Exec
