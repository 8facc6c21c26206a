import WasmLua.Proofs.Integers.Exact

namespace WasmLua.Number

variable {x y : Int}

lemma int_injective (same : ofInt x = ofInt y) : x = y := by
  injection same with values
  exact_mod_cast values

lemma round_int (x : Int) (small : x.natAbs ≤ 2 ^ 53) : round (x : Rat) = ofInt x := by
  have kept : Format.binary64.nearest (x : Rat) = (x : Rat) := by
    rw [Format.nearest, if_pos ⟨rfl, small⟩]
  have finite : ¬ (Nat.pow 2 Format.binary64.maxExponent : Int) * ((x : Rat).den : Int) ≤ ((x : Rat).num.natAbs : Int) := by
    have bound : (2 : Nat) ^ 53 < 2 ^ Format.binary64.maxExponent := by
      apply Nat.pow_lt_pow_right (by decide) (by decide)
    rw [Rat.den_intCast, Rat.num_intCast, Nat.pow_eq]
    omega
  rw [round, Format.round, kept]
  simp only [if_neg finite, ofInt]

variable {a b : Rat}

lemma add_finite : finite a + finite b = round (a + b) := by
  -- The sums below are spelled out: otherwise both sides are unfolded down to powers of two.
  change add (finite a) (finite b) = round (rational (finite a) + rational (finite b))
  rfl

lemma sub_finite : finite a - finite b = round (a - b) := by
  change finite a + finite (-b) = _
  rw [add_finite, sub_eq_add_neg]

lemma mul_finite : finite a * finite b = round (a * b) := by
  change mul (finite a) (finite b) = round (rational (finite a) * rational (finite b))
  rfl

lemma add_int (y : Int) (small : (x + y).natAbs ≤ 2 ^ 53) : ofInt x + ofInt y = ofInt (x + y) := by
  rw [← round_int (x + y) small, Int.cast_add, ofInt, ofInt, add_finite]

lemma sub_int (small : (x - y).natAbs ≤ 2 ^ 53) : ofInt x - ofInt y = ofInt (x - y) := by
  rw [← round_int (x - y) small, Int.cast_sub, ofInt, ofInt, sub_finite]

lemma mul_int (small : (x * y).natAbs ≤ 2 ^ 53) : ofInt x * ofInt y = ofInt (x * y) := by
  rw [← round_int (x * y) small, Int.cast_mul, ofInt, ofInt, mul_finite]

lemma zero_int (x : Int) : (ofInt x).isZero = decide (x = 0) := by
  simp [ofInt, isZero, beq_eq_decide]

lemma div_int (x y : Int) (nonzero : y ≠ 0) (divides : y ∣ x) (small : (x / y).natAbs ≤ 2 ^ 53) :
    ofInt x / ofInt y = ofInt (x / y) := by
  obtain ⟨q, rfl⟩ := divides
  have cast : ((y * q : Int) : Rat) / (y : Rat) = (q : Rat) := by
    have divisor : (y : Rat) ≠ 0 := by exact_mod_cast nonzero
    rw [Int.cast_mul, mul_div_cancel_left₀ _ divisor]
  rw [Int.mul_ediv_cancel_left q nonzero] at small ⊢
  change (if (ofInt y).isZero then _ else round (((y * q : Int) : Rat) / (y : Rat))) = _
  rw [zero_int, decide_eq_false nonzero, cast, round_int q small]
  rfl

lemma mod_int (x y : Int) (positive : 0 < y) (small : y ≤ 2 ^ 53) : mod (ofInt x) (ofInt y) = ofInt (x % y) := by
  have rest : truncatedRemainder (x : Rat) (y : Rat) = ((x.tmod y : Int) : Rat) := by
    simp only [truncatedRemainder, Exec.truncated_quotient x positive.ne', Int.tmod_def]
    push_cast
    rfl
  have sign : (ofInt y).isNegative = false := by
    simp only [ofInt, isNegative, Rat.num_intCast]
    exact decide_eq_false (by omega)
  have place : mod (ofInt x) (ofInt y) =
      if ((x.tmod y : Int) : Rat).num == 0 then .finite 0
      else if decide (((x.tmod y : Int) : Rat).num < 0) == false then .finite ((x.tmod y : Int) : Rat)
      else round (((x.tmod y : Int) : Rat) + (y : Rat)) := by
    rw [← rest, ← sign]
    simp only [mod, ofInt]
    rw [show (Number.finite (y : Rat)).isZero = false from (zero_int y).trans (decide_eq_false positive.ne')]
    rfl
  rw [place, Rat.num_intCast]
  have above := Int.emod_nonneg x positive.ne'
  have below := Int.emod_lt_of_pos x positive
  have whole := Int.tmod_eq_emod (a := x) (b := y)
  -- A truncated remainder is the remainder itself or lies one divisor below it.
  by_cases even : 0 ≤ x ∨ y ∣ x
  · rw [if_pos even, Nat.cast_zero, sub_zero] at whole
    rw [whole]
    by_cases none : x % y = 0
    · simp [none, ofInt]
    · simp [none, ofInt, not_lt.mpr above]
  · rw [if_neg even, Int.natAbs_of_nonneg positive.le] at whole
    have nonzero : x.tmod y ≠ 0 := by omega
    have negative : x.tmod y < 0 := by omega
    have sum : x.tmod y + y = x % y := by omega
    rw [← Int.cast_add, sum, round_int _ (by omega), if_neg (by simpa using nonzero), if_neg (by simpa using negative)]

lemma lt_int : lt (ofInt x) (ofInt y) = decide (x < y) := by
  simp [ofInt, lt, rational]

lemma eq_int : eq (ofInt x) (ofInt y) = decide (x = y) := by
  simp [ofInt, eq, rational, beq_eq_decide]

lemma le_int : le (ofInt x) (ofInt y) = decide (x ≤ y) := by
  rw [le, lt_int, eq_int, ← Bool.decide_or]
  exact decide_eq_decide.mpr (by omega)

lemma floor_int : floor (ofInt x) = ofInt x := by
  simp [ofInt, floor]

lemma whole_int (x : Int) : toInt? (ofInt x) = some x := by
  simp [ofInt, toInt?]

lemma nan_int : (ofInt x).isNaN = false := rfl

end WasmLua.Number

namespace WasmLua.Exec

lemma unsigned_int {x : Int} : Arithmetic.unsigned (Number.ofInt x) = Number.ofInt (x % 2 ^ 32) := by
  change Number.mod (Number.ofInt x) (Number.ofInt 4294967296) = _
  exact Number.mod_int x 4294967296 (by decide) (by decide)

end WasmLua.Exec
