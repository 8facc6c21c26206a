import WasmLua.Exec.Value
import WasmLua.Proofs.Number.Integers
import WasmLua.Proofs.Number.Rounding

namespace WasmLua.Number

open Format

lemma div_finite {a b : Rat} (nonzero : b ≠ 0) : finite a / finite b = round (a / b) := by
  have divisor : (finite b).isZero = false := by simp [isZero, nonzero]
  change (if (finite b).isZero then _ else round (rational (finite a) / rational (finite b))) = _
  rw [divisor, if_neg Bool.false_ne_true, rational, rational]

lemma round_fraction {m : Int} {k : Nat} (small : m.natAbs < 2 ^ 53) (places : k ≤ 971) :
    round ((m : Rat) * 2 ^ (-(k : Int))) = .finite ((m : Rat) * 2 ^ (-(k : Int))) :=
  round_dyadic .binary64 m (-k) small (by change (-1074 : Int) ≤ _; omega) (by change (53 : Int) + _ ≤ 1024; omega)

lemma floor_div_power (x : Int) (k : Nat) (small : x.natAbs < 2 ^ 53) (places : k ≤ 971) :
    (ofInt x / ofInt (2 ^ k : Nat)).floor = ofInt (x / (2 ^ k : Nat)) := by
  have scaled : (x : Rat) / ((2 ^ k : Nat) : Int) = (x : Rat) * 2 ^ (-(k : Int)) := by
    rw [zpow_neg, zpow_natCast, div_eq_mul_inv]
    norm_cast
  have divisor : (((2 ^ k : Nat) : Int) : Rat) ≠ 0 := by positivity
  rw [ofInt, ofInt, div_finite divisor, scaled, round_fraction small places, ← scaled, floor, Exec.floor_quotient _ (by positivity)]
  rfl

variable {x y : Int}

lemma fmod_sign (x : Int) (nonzero : y ≠ 0) : fmod (ofInt x) (ofInt y) =
    if x.tmod y = 0 then if x < 0 then .negZero else ofInt 0 else ofInt (x.tmod y) := by
  change (if (ofInt y).isZero then nan else
    if (truncatedRemainder (x : Rat) (y : Rat)).num == 0 then if (ofInt x).isNegative then negZero else finite 0
    else finite (truncatedRemainder (x : Rat) (y : Rat))) = _
  rw [zero_int, if_neg (by simpa using nonzero), Exec.truncated_rest x nonzero]
  by_cases negative : x < 0 <;> simp [isNegative, ofInt, negative]

lemma plain_zero : negZero + ofInt 0 = ofInt 0 := by
  have spread : negZero + ofInt 0 = round (rational negZero + rational (ofInt 0)) := by
    change add negZero (ofInt 0) = _
    rfl
  have sum : rational negZero + rational (ofInt 0) = ((0 : Int) : Rat) := add_zero _
  rw [spread, sum, round_int 0 (by decide)]

lemma fmod_int (nonneg : 0 ≤ x) (nonzero : y ≠ 0) : fmod (ofInt x) (ofInt y) = ofInt (x.tmod y) := by
  rw [fmod_sign x nonzero, if_neg (not_lt.mpr nonneg)]
  split
  · rename_i none
    rw [none]
  · rfl

lemma rest_int (small : x.natAbs ≤ 2 ^ 53) (nonzero : y ≠ 0) : fmod (ofInt x) (ofInt y) + ofInt 0 = ofInt (x.tmod y) := by
  have bound : (x.tmod y).natAbs ≤ 2 ^ 53 := by
    rw [Int.natAbs_tmod]
    exact (Nat.mod_le _ _).trans small
  rw [fmod_sign x nonzero]
  by_cases none : x.tmod y = 0
  · rw [if_pos none, none]
    split
    · exact plain_zero
    · exact add_int 0 (by decide)
  · rw [if_neg none, add_int 0 (by omega), add_zero]

lemma quotient_gap (positive : 0 < x) (most : x < 2 ^ 52) (divisor : 0 < y) (small : y < 2 ^ 52) :
    ∃ n : Nat, binary64.unitExponent ((x : Rat) / y) ≤ -n ∧
      (x : Rat) / y ≤ (((x / y + 1) * 2 ^ n - 1 : Int) : Rat) * 2 ^ (-n : Int) := by
  have scale : (0 : Rat) < y := by exact_mod_cast divisor
  have above : (1 : Rat) ≤ x := by exact_mod_cast positive
  have below : (x : Rat) < 2 ^ 52 := by exact_mod_cast most
  have bound : (y : Rat) < 2 ^ 52 := by exact_mod_cast small
  have value : (0 : Rat) < (x : Rat) / y := by positivity
  obtain ⟨low, high⟩ := binary_exponent_bounds ((x : Rat) / y) value.ne'
  rw [abs_of_pos value] at low high
  have upper : binaryExponent ((x : Rat) / y) < 52 := by
    apply power_lt.mp
    calc (2 : Rat) ^ binaryExponent ((x : Rat) / y) ≤ (x : Rat) / y := low
      _ ≤ x := div_le_self (by positivity) (by exact_mod_cast divisor)
      _ < 2 ^ (52 : Int) := by exact_mod_cast below
  have lower : -52 < binaryExponent ((x : Rat) / y) + 1 := by
    apply power_lt.mp
    calc (2 : Rat) ^ (-52 : Int) < 1 / y := by
          rw [lt_div_iff₀ scale, zpow_neg, inv_mul_lt_iff₀ (by positivity), mul_one]
          exact_mod_cast bound
      _ ≤ (x : Rat) / y := by gcongr
      _ < 2 ^ (binaryExponent ((x : Rat) / y) + 1) := high
  obtain ⟨n, exponent⟩ := Int.eq_ofNat_of_zero_le (show 0 ≤ 52 - binaryExponent ((x : Rat) / y) by omega)
  refine ⟨n, ?_, ?_⟩
  · change max (binaryExponent _ - 53 + 1) (-1074) ≤ _
    omega
  -- The unit of the quotient is less than the step between quotients by the divisor.
  have unit : (2 : Rat) ^ (-n : Int) < 1 / y := by
    have parts : (2 : Rat) ^ binaryExponent ((x : Rat) / y) = 2 ^ (52 : Int) * 2 ^ (-n : Int) := by
      rw [← power_add]
      congr 1
      omega
    rw [parts, le_div_iff₀ scale] at low
    rw [lt_div_iff₀ scale]
    have := low.trans_lt below
    norm_num at this ⊢
    linarith
  have step : (x : Rat) / y ≤ (x / y + 1 : Int) - 1 / y := by
    have whole : x + 1 ≤ (x / y + 1) * y := by
      have rest := Int.emod_lt_of_pos x divisor
      have parts := Int.emod_add_mul_ediv x y
      rw [add_mul, one_mul, mul_comm (x / y)]
      omega
    rw [le_sub_iff_add_le, ← add_div, div_le_iff₀ scale]
    exact_mod_cast whole
  calc (x : Rat) / y ≤ (x / y + 1 : Int) - 2 ^ (-n : Int) := by linarith
    _ = (((x / y + 1) * 2 ^ n - 1 : Int) : Rat) * 2 ^ (-n : Int) := by
        have inverse : (2 : Rat) ^ n * 2 ^ (-n : Int) = 1 := by
          rw [zpow_neg, zpow_natCast]
          exact mul_inv_cancel₀ (by positivity)
        push_cast
        rw [sub_mul, one_mul, mul_assoc, inverse, mul_one]

lemma rounded_quotient (least : 0 ≤ x) (most : x < 2 ^ 52) (positive : 0 < y) (small : y < 2 ^ 52) :
    ∃ near : Rat, binary64.nearest ((x : Rat) / y) = near ∧ 0 ≤ near ∧ near < 2 ^ 53 ∧ near.floor = x / y := by
  rcases least.eq_or_lt with rfl | above
  · exact ⟨0, by simp [nearest], le_refl 0, by norm_num, by rw [Int.zero_ediv]; rfl⟩
  obtain ⟨n, coarse, gap⟩ := quotient_gap above most positive small
  have scale : (0 : Rat) < y := by exact_mod_cast positive
  have quotient : (((x / y : Int) : Rat)) ≤ (x : Rat) / y := by
    rw [le_div_iff₀ scale]
    exact_mod_cast Int.ediv_mul_le x positive.ne'
  have inverse : (2 : Rat) ^ n * 2 ^ (-n : Int) = 1 := by
    rw [zpow_neg, zpow_natCast]
    exact mul_inv_cancel₀ (by positivity)
  have between (k : Int) := nearest_between binary64 ((x : Rat) / y) k (-n) fun _ => coarse
  have low := (between (x / y * 2 ^ n)).1 (by push_cast; rwa [mul_assoc, inverse, mul_one])
  have high := (between _).2 gap
  push_cast at low high
  rw [mul_assoc, inverse, mul_one] at low
  rw [sub_mul, one_mul, mul_assoc, inverse, mul_one] at high
  have unit := power_positive (-n)
  have start : (0 : Rat) ≤ (x / y : Int) := by exact_mod_cast Int.ediv_nonneg least positive.le
  have top : ((x / y : Int) : Rat) ≤ x := by exact_mod_cast Int.ediv_le_self y least
  have bound : (x : Rat) < 2 ^ 52 := by exact_mod_cast most
  refine ⟨_, rfl, start.trans low, by linarith, le_antisymm ?_ (Rat.le_floor_iff.mpr low)⟩
  have under : binary64.nearest ((x : Rat) / y) < ((x / y + 1 : Int) : Rat) := by
    push_cast
    linarith
  have floored := (Rat.floor_le (binary64.nearest ((x : Rat) / y))).trans_lt under
  have : (binary64.nearest ((x : Rat) / y)).floor < x / y + 1 := by exact_mod_cast floored
  omega

lemma round_quotient (near : Rat) (size : |binary64.nearest near| < 2 ^ 53) : round near = .finite (binary64.nearest near) :=
  round_of_bounded .binary64 near (size.trans_le (by
    rw [← zpow_natCast]
    exact zpow_le_zpow_right₀ (by norm_num) (by decide)))

lemma trunc_plain (value : Rat) (small : |value| < 2 ^ 53) : (Exec.Numeric.trunc (finite value) >>= Exec.Numeric.plain)
      = .ok (ofInt (if 0 ≤ value then value.floor else value.ceil)) := by
  have order : Exec.Numeric.le (Exec.Numeric.ofInt 0) (finite value) = .ok (decide (0 ≤ value)) := by
    refine congrArg Except.ok ?_
    change (decide (((0 : Int) : Rat) < value) || ((0 : Int) : Rat) == value) = _
    rw [Bool.eq_iff_iff]
    simp [le_iff_lt_or_eq]
  obtain ⟨least, most⟩ := abs_lt.mp small
  rw [Exec.Numeric.trunc, order, Exec.ok_bind]
  by_cases nonneg : 0 ≤ value
  · have above : 0 ≤ value.floor := Rat.le_floor_iff.mpr nonneg
    have below : value.floor < 2 ^ 53 := by
      exact_mod_cast (Rat.floor_le value).trans_lt most
    rw [if_pos nonneg, if_pos (decide_eq_true nonneg)]
    exact congrArg Except.ok ((add_int 0 (by omega)).trans (by rw [add_zero]))
  · have above : value.ceil ≤ 0 := Rat.ceil_le_iff.mpr (not_le.mp nonneg).le
    have below : -2 ^ 53 < value.ceil := by
      exact_mod_cast least.trans_le (Rat.le_ceil (x := value))
    rw [if_neg nonneg, if_neg (by simpa using nonneg)]
    change Except.ok ((if value.ceil = 0 ∧ value.num < 0 then negZero else ofInt value.ceil) + ofInt 0) = _
    split
    · rename_i none
      rw [none.1, plain_zero]
    · rw [add_int 0 (by omega), add_zero]

lemma trunc_quotient (small : x.natAbs < 2 ^ 52) (positive : 0 < y) (divisor : y < 2 ^ 52) :
    (Exec.Numeric.trunc (round ((x : Rat) / y)) >>= Exec.Numeric.plain) = .ok (ofInt (x.tdiv y)) := by
  by_cases nonneg : 0 ≤ x
  · obtain ⟨near, rfl, above, below, whole⟩ := rounded_quotient nonneg (by omega) positive divisor
    have size : |binary64.nearest ((x : Rat) / y)| < 2 ^ 53 := by rwa [abs_of_nonneg above]
    rw [round_quotient _ size, trunc_plain _ size, if_pos above, whole, Int.tdiv_eq_ediv_of_nonneg nonneg]
  · obtain ⟨near, mirrored, above, below, whole⟩ := rounded_quotient (x := -x) (by omega) (by omega) positive divisor
    have turned : binary64.nearest ((x : Rat) / y) = -near := by
      rw [← mirrored, ← nearest_neg, Int.cast_neg, neg_div, neg_neg]
    have size : |binary64.nearest ((x : Rat) / y)| < 2 ^ 53 := by
      rwa [turned, abs_neg, abs_of_nonneg above]
    have quotient : x.tdiv y = -near.floor := by
      rw [whole, ← Int.tdiv_eq_ediv_of_nonneg (by omega), Int.neg_tdiv, neg_neg]
    rw [round_quotient _ size, trunc_plain _ size, turned, quotient, Rat.ceil_eq_neg_floor_neg, neg_neg]
    split
    · rename_i zero
      have none : near = 0 := le_antisymm (neg_nonneg.mp zero) above
      rw [none]
      rfl
    · rfl

end WasmLua.Number

namespace WasmLua.Exec

open Except (map)
open Numeric

variable {x : Int} {k : Nat} {a b : Number}

lemma value_int : (ofInt x : Value) = .number (.ofInt x) := rfl

lemma value_two : (two k : Value) = .number (.ofInt (2 ^ k)) := by
  simp [two, value_int]

lemma arithmetic_two : (Arithmetic.two k : Number) = .ofInt (2 ^ k) := by
  change Number.ofInt (Nat.pow 2 k) = _
  simp

lemma value_add : add (Value.number a) (.number b) = .ok (.number (a + b)) := rfl

lemma value_sub : sub (Value.number a) (.number b) = .ok (.number (a - b)) := rfl

lemma value_mul : mul (Value.number a) (.number b) = .ok (.number (a * b)) := rfl

lemma value_div : div (Value.number a) (.number b) = .ok (.number (a / b)) := rfl

lemma value_mod : mod (Value.number a) (.number b) = .ok (.number (a.mod b)) := rfl

lemma value_floor : floor (Value.number a) = .ok (.number a.floor) := rfl

lemma value_lt : lt (Value.number a) (.number b) = .ok (a.lt b) := rfl

lemma value_le : le (Value.number a) (.number b) = .ok (a.le b) := rfl

lemma value_eq : eq (Value.number a) (.number b) = a.eq b := rfl

lemma value_zero : isZero (Value.number (.ofInt x)) = decide (x = 0) := by
  rw [isZero, value_int, value_eq, Number.eq_int]

lemma value_whole : toInt? (Value.number (.ofInt x)) = some x := Number.whole_int x

lemma value_trunc : trunc (Value.number a) = map Value.number (trunc a) := by
  change (if Number.le (.ofInt 0) a then _ else _) = map Value.number (if Number.le (.ofInt 0) a then _ else _)
  split <;> rfl

instance : Quotients Number where
  add := fun small => congrArg Except.ok (Number.add_int _ small)
  sub := fun small => congrArg Except.ok (Number.sub_int small)
  mul := fun small => congrArg Except.ok (Number.mul_int small)
  mod := fun positive small => congrArg Except.ok (Number.mod_int _ _ positive small)
  fmod := fun nonneg nonzero => congrArg Except.ok (Number.fmod_int nonneg nonzero)
  rest := fun small nonzero => congrArg Except.ok (Number.rest_int small nonzero)
  lt := congrArg Except.ok Number.lt_int
  le := congrArg Except.ok Number.le_int
  eq := Number.eq_int
  whole := Number.whole_int _
  down := fun _ k power divides small => congrArg Except.ok (Number.div_int _ _ (by rw [power]; positivity)
    divides (Int.natAbs_ediv_le_natAbs _ _ |>.trans small))
  shift := by
    rintro x _ k rfl places small
    exact congrArg Except.ok (Number.floor_div_power x k small (by omega))
  floor_div := by
    intro x y least most positive small
    obtain ⟨near, rfl, above, below, whole⟩ := Number.rounded_quotient least most positive small
    have divided := Number.div_finite (a := x) (b := y) (by exact_mod_cast positive.ne')
    rw [Number.round_quotient _ (by rwa [abs_of_nonneg above])] at divided
    exact congrArg Except.ok ((congrArg Number.floor divided).trans (congrArg Number.ofInt whole))
  trunc_div := by
    intro x y small nonzero divisor
    change (trunc (Number.ofInt x / Number.ofInt y) >>= plain) = _
    rw [Number.ofInt, Number.ofInt, Number.div_finite (by exact_mod_cast nonzero)]
    rcases lt_or_gt_of_ne nonzero with negative | positive
    · have turned := Number.trunc_quotient (x := -x) (y := -y) (by omega) (by omega) (by omega)
      rwa [Int.cast_neg, Int.cast_neg, neg_div_neg_eq, Int.neg_tdiv, Int.tdiv_neg, neg_neg] at turned
    · exact Number.trunc_quotient small positive (by omega)

instance : Quotients Value where
  add := fun small => congrArg (map Value.number) (Whole.add (N := Number) small)
  sub := fun small => congrArg (map Value.number) (Whole.sub (N := Number) small)
  mul := fun small => congrArg (map Value.number) (Whole.mul (N := Number) small)
  mod := fun positive small => congrArg (map Value.number) (Whole.mod (N := Number) positive small)
  fmod := fun nonneg nonzero => congrArg (map Value.number) (Whole.fmod (N := Number) nonneg nonzero)
  rest := fun small nonzero => congrArg (map Value.number) (Whole.rest (N := Number) small nonzero)
  lt := congrArg Except.ok Number.lt_int
  le := congrArg Except.ok Number.le_int
  eq := Number.eq_int
  whole := Number.whole_int _
  down := fun y k power divides small =>
    congrArg (map Value.number) (Whole.down (N := Number) y k power divides small)
  shift := fun y k power places small =>
    congrArg (map Value.number) (Whole.shift (N := Number) y k power places small)
  floor_div := fun least most positive small =>
    congrArg (map Value.number) (Quotients.floor_div (N := Number) least most positive small)
  trunc_div := by
    intro x y small nonzero divisor
    have truncated := Quotients.trunc_div (N := Number) small nonzero divisor
    change (trunc (Value.number (Number.ofInt x / Number.ofInt y)) >>= plain) = _
    change (trunc (Number.ofInt x / Number.ofInt y) >>= plain) = _ at truncated
    rw [value_trunc]
    cases found : trunc (Number.ofInt x / Number.ofInt y) with
    | error fault =>
      rw [found] at truncated
      cases truncated
    | ok near =>
      rw [found] at truncated
      exact congrArg (map Value.number) truncated

lemma wrap_number : I32.wrap (Number.ofInt x) = .ok (Number.ofInt (x.bmod (2 ^ 32))) := whole_wrap

lemma wrap_value : I32.wrap (Value.number (.ofInt x)) = .ok (.number (.ofInt (x.bmod (2 ^ 32)))) := whole_wrap

end WasmLua.Exec
