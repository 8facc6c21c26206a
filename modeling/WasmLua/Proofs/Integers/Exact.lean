import Mathlib
import WasmLua.Exec.I64

namespace WasmLua.Exec

open Except (ok)
open Numeric

section Results

variable {α β : Type} {value : α}

lemma ok_bind {next : α → Except Fault β} : (ok value >>= next) = next value := by
  -- Stated by hand: as a definitional equation it would make the kernel reduce whole computations.
  simp only [bind, Except.bind]

lemma ok_map {next : α → β} : (next <$> (ok value : Except Fault α)) = .ok (next value) := by
  simp only [Functor.map, Except.map]

end Results

class Whole (N : Type) [Numeric N] : Prop where
  add : ∀ {x y : Int}, (x + y).natAbs ≤ 2 ^ 53 → Numeric.add (ofInt x : N) (ofInt y) = .ok (ofInt (x + y))
  sub : ∀ {x y : Int}, (x - y).natAbs ≤ 2 ^ 53 → Numeric.sub (ofInt x : N) (ofInt y) = .ok (ofInt (x - y))
  mul : ∀ {x y : Int}, (x * y).natAbs ≤ 2 ^ 53 → Numeric.mul (ofInt x : N) (ofInt y) = .ok (ofInt (x * y))
  mod : ∀ {x y : Int}, 0 < y → y ≤ 2 ^ 53 → Numeric.mod (ofInt x : N) (ofInt y) = .ok (ofInt (x % y))
  fmod : ∀ {x y : Int}, 0 ≤ x → y ≠ 0 → Numeric.fmod (ofInt x : N) (ofInt y) = .ok (ofInt (x.tmod y))
  rest : ∀ {x y : Int}, x.natAbs ≤ 2 ^ 53 → y ≠ 0 →
    (Numeric.fmod (ofInt x : N) (ofInt y) >>= plain) = .ok (ofInt (x.tmod y))
  lt : ∀ {x y : Int}, Numeric.lt (ofInt x : N) (ofInt y) = .ok (decide (x < y))
  le : ∀ {x y : Int}, Numeric.le (ofInt x : N) (ofInt y) = .ok (decide (x ≤ y))
  eq : ∀ {x y : Int}, Numeric.eq (ofInt x : N) (ofInt y) = decide (x = y)
  whole : ∀ {x : Int}, toInt? (ofInt x : N) = some x
  down : ∀ {x : Int} (y : Int) (k : Nat), y = 2 ^ k → y ∣ x → x.natAbs ≤ 2 ^ 53 →
    Numeric.div (ofInt x : N) (ofInt y) = .ok (ofInt (x / y))
  shift : ∀ {x : Int} (y : Int) (k : Nat), y = 2 ^ k → k ≤ 64 → x.natAbs < 2 ^ 53 →
    (Numeric.div (ofInt x : N) (ofInt y) >>= floor) = .ok (ofInt (x / y))

class Quotients (N : Type) [Numeric N] : Prop extends Whole N where
  floor_div : ∀ {x y : Int}, 0 ≤ x → x < 2 ^ 52 → 0 < y → y < 2 ^ 52 →
    (Numeric.div (ofInt x : N) (ofInt y) >>= floor) = .ok (ofInt (x / y))
  trunc_div : ∀ {x y : Int}, x.natAbs < 2 ^ 52 → y ≠ 0 → y.natAbs < 2 ^ 52 →
    (Numeric.div (ofInt x : N) (ofInt y) >>= trunc >>= plain) = .ok (ofInt (x.tdiv y))

section Whole

variable {N : Type} [Numeric N] {x y : Int}

lemma whole_two {k : Nat} : (two k : N) = ofInt (2 ^ k) := by
  rw [two, Nat.pow_eq, Nat.cast_pow, Nat.cast_ofNat]

variable [Whole N]

lemma whole_zero : isZero (ofInt x : N) = decide (x = 0) := Whole.eq

lemma whole_plain (small : x.natAbs ≤ 2 ^ 53) : plain (ofInt x : N) = .ok (ofInt x) := by
  rw [plain, Whole.add (by omega), add_zero]

lemma whole_power {k : Nat} (bound : k ≤ 64) : power (ofInt k : N) = .ok (ofInt (2 ^ k)) := by
  have inside : 0 ≤ (k : Int) ∧ (k : Int) ≤ 64 := by omega
  simp only [power, Whole.whole, if_pos inside, whole_two, Int.toNat_natCast]

lemma whole_cut (y : Int) (k : Nat) (power : y = 2 ^ k) (least : 0 ≤ x) (most : x ≤ 2 ^ 53) :
    Numeric.div (ofInt (x - x % y) : N) (ofInt y) = .ok (ofInt (x / y)) := by
  have positive : 0 < y := by
    rw [power]
    positivity
  have split := Int.emod_add_mul_ediv x y
  have above := Int.emod_nonneg x positive.ne'
  have shifted : x - x % y = y * (x / y) := by omega
  have below : 0 ≤ y * (x / y) := mul_nonneg positive.le (Int.ediv_nonneg least positive.le)
  rw [Whole.down y k power Int.dvd_self_sub_emod (by omega), shifted, Int.mul_ediv_cancel_left _ positive.ne']

lemma whole_shift {β : Type} {next : N → Except Fault β} (k : Nat) (places : k ≤ 64) (small : x.natAbs < 2 ^ 53) :
    (Numeric.div (ofInt x : N) (ofInt (2 ^ k)) >>= fun quotient => floor quotient >>= next) = next (ofInt (x / 2 ^ k)) := by
  rw [← bind_assoc, Whole.shift _ k rfl places small, ok_bind]

lemma whole_rest (whole : Int) (total k : Nat) (same : whole = total) (below : k ≤ total)
    (small : total ≤ 64) : Numeric.sub (ofInt whole : N) (ofInt k) = .ok (ofInt (total - k : Nat)) := by
  rw [Whole.sub (by omega), same, Int.natCast_sub below]

lemma whole_past (start : Int) {first k : Nat} (same : start = first) (after : first ≤ k) (small : k ≤ 64) :
    Numeric.sub (ofInt k : N) (ofInt start) = .ok (ofInt (k - first : Nat)) := by
  rw [Whole.sub (by omega), same, Int.natCast_sub after]

lemma wrapped (x : Int) : (if 2 ^ 31 ≤ x % 2 ^ 32 then x % 2 ^ 32 - 2 ^ 32 else x % 2 ^ 32) = x.bmod (2 ^ 32) := by
  rw [Int.bmod]
  norm_num
  split <;> split <;> omega

lemma whole_wrap : I32.wrap (ofInt x : N) = .ok (ofInt (x.bmod (2 ^ 32))) := by
  rw [I32.wrap, whole_two, whole_two, Whole.mod (by norm_num) (by norm_num), ok_bind, Whole.le, ok_bind,
    Whole.sub (by omega), whole_plain (by omega), ← wrapped]
  by_cases high : 2 ^ 31 ≤ x % 2 ^ 32
  · rw [if_pos high, if_pos (decide_eq_true high)]
  · rw [if_neg high, if_neg (by simpa using high)]

end Whole

section Rationals

variable {x y : Int}

lemma floor_quotient (x : Int) (positive : 0 < y) : ((x : Rat) / (y : Rat)).floor = x / y := by
  obtain ⟨n, rfl⟩ := Int.eq_ofNat_of_zero_le positive.le
  exact_mod_cast Rat.floor_intCast_div_natCast x n

lemma ceil_quotient (x : Int) (negative : x < 0) (positive : 0 < y) : ((x : Rat) / (y : Rat)).ceil = x.tdiv y := by
  rw [Rat.ceil_eq_neg_floor_neg, ← neg_div, ← Int.cast_neg, floor_quotient _ positive,
    ← Int.tdiv_eq_ediv_of_nonneg (by omega), Int.neg_tdiv, neg_neg]

lemma truncated_quotient (x : Int) (nonzero : y ≠ 0) :
    ((x : Rat) / (y : Rat)).num.tdiv ((x : Rat) / (y : Rat)).den = x.tdiv y := by
  obtain ⟨c, numerator, denominator⟩ := Rat.exists_eq_mul_div_num_and_eq_mul_div_den x nonzero
  generalize ((x : Rat) / (y : Rat)).num = n at *
  generalize ((x : Rat) / (y : Rat)).den = d at *
  subst numerator denominator
  rcases lt_or_gt_of_ne (left_ne_zero_of_mul nonzero) with negative | positive
  · have turned := Int.mul_tdiv_mul_of_pos n (d : Int) (show 0 < -c by omega)
    rw [neg_mul, neg_mul, Int.neg_tdiv, Int.tdiv_neg, neg_neg] at turned
    exact turned.symm
  · rw [Int.mul_tdiv_mul_of_pos _ _ positive]

lemma truncated_rest (x : Int) (nonzero : y ≠ 0) : Number.truncatedRemainder (x : Rat) (y : Rat) = ((x.tmod y : Int) : Rat) := by
  simp only [Number.truncatedRemainder, truncated_quotient x nonzero, Int.tmod_def]
  push_cast
  rfl

lemma rational_le {a b : Rat} : Numeric.le a b = .ok (decide (a ≤ b)) := by
  simp only [Numeric.le, Arithmetic.lt, Arithmetic.eq, beq_eq_decide]
  congr 1
  rw [Bool.eq_iff_iff]
  simp [le_iff_lt_or_eq]

lemma rational_plain {a : Rat} : plain a = .ok a := by
  change ok (a + ((0 : Int) : Rat)) = _
  rw [Int.cast_zero, add_zero]

lemma rational_trunc (x : Int) (positive : 0 < y) : trunc ((x : Rat) / (y : Rat)) = .ok ((x.tdiv y : Int) : Rat) := by
  have divisor : (0 : Rat) < (y : Rat) := by exact_mod_cast positive
  have sign : ((0 : Int) : Rat) ≤ (x : Rat) / (y : Rat) ↔ 0 ≤ x := by
    rw [le_div_iff₀ divisor]
    simp
  have order : Numeric.le (ofInt 0 : Rat) ((x : Rat) / (y : Rat)) = .ok (decide (0 ≤ x)) :=
    rational_le.trans (congrArg ok (decide_eq_decide.mpr sign))
  rw [trunc, order, ok_bind]
  by_cases nonneg : 0 ≤ x
  · rw [if_pos (decide_eq_true nonneg), Int.tdiv_eq_ediv_of_nonneg nonneg, ← floor_quotient x positive]
    rfl
  · rw [if_neg (by simpa using nonneg), ← ceil_quotient x (by omega) positive]
    rfl

instance : Quotients Rat where
  add := fun _ => congrArg ok (Int.cast_add ..).symm
  sub := fun _ => congrArg ok (Int.cast_sub ..).symm
  mul := fun _ => congrArg ok (Int.cast_mul ..).symm
  mod := by
    intro x y positive _
    change ok ((x : Rat) - (y : Rat) * ((((x : Rat) / (y : Rat)).floor : Int) : Rat)) = _
    rw [floor_quotient x positive, ← Int.cast_mul, ← Int.cast_sub, ← Int.emod_def]
    rfl
  fmod := fun _ nonzero => congrArg ok (truncated_rest _ nonzero)
  rest := fun _ nonzero => (congrArg plain (truncated_rest _ nonzero)).trans rational_plain
  lt := by simp [Numeric.lt, Arithmetic.lt, ofInt, Arithmetic.ofInt]
  le := rational_le.trans (congrArg ok (decide_eq_decide.mpr Int.cast_le))
  eq := by simp [Numeric.eq, Arithmetic.eq, beq_eq_decide, ofInt, Arithmetic.ofInt]
  whole := by simp [toInt?, Arithmetic.toInt?, ofInt, Arithmetic.ofInt]
  down := by
    rintro x _ k rfl ⟨q, rfl⟩ _
    have positive : (2 ^ k : Int) ≠ 0 := by positivity
    rw [Int.mul_ediv_cancel_left q positive]
    change ok (((2 ^ k * q : Int) : Rat) / ((2 ^ k : Int) : Rat)) = _
    rw [Int.cast_mul, mul_div_cancel_left₀ _ (by exact_mod_cast positive)]
    rfl
  shift := fun _ k power _ _ => congrArg (fun n : Int => ok (n : Rat))
    (floor_quotient _ (by rw [power]; positivity))
  floor_div := fun _ _ positive _ => congrArg (fun n : Int => ok (n : Rat)) (floor_quotient _ positive)
  trunc_div := by
    intro x y _ nonzero _
    rcases lt_or_gt_of_ne nonzero with negative | positive
    · have turned := rational_trunc (-x) (show 0 < -y by omega)
      rw [Int.cast_neg, Int.cast_neg, neg_div_neg_eq, Int.neg_tdiv, Int.tdiv_neg, neg_neg] at turned
      change (trunc ((x : Rat) / (y : Rat)) >>= plain) = _
      rw [turned, ok_bind, rational_plain]
      rfl
    · change (trunc ((x : Rat) / (y : Rat)) >>= plain) = _
      rw [rational_trunc x positive, ok_bind, rational_plain]
      rfl

end Rationals

end WasmLua.Exec
