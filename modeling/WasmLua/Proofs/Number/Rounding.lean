import Mathlib
import WasmLua.Number.Functions

/-!
Rounding to a binary format. A value is measured by its binary exponent; a multiple of a unit that
the format has is not rounded, and rounding another value does not cross it.
-/

namespace WasmLua

open Int
open Format

lemma pow2_eq {e : Int} : pow2 e = (2 : Rat) ^ e := by
  cases e with
  | ofNat n => simp [pow2]
  | negSucc n => simp [pow2, zpow_negSucc, Rat.mkRat_eq_div]

lemma power_positive (e : Int) : (0 : Rat) < 2 ^ e := by positivity

variable {a b : Int} {den num k : Nat}

lemma power_add : (2 : Rat) ^ (a + b) = 2 ^ a * 2 ^ b := zpow_add₀ (by norm_num) a b

lemma power_lt : (2 : Rat) ^ a < 2 ^ b ↔ a < b := zpow_lt_zpow_iff_right₀ (by norm_num)

lemma abs_quotient (value : Rat) : |value| = (value.num.natAbs : Rat) / (value.den : Rat) := by
  rw [Rat.abs_def, Rat.divInt_eq_div]
  simp

lemma quotient_between {size : Nat} (positive : 0 < size) (divisor : 0 < den) :
    (2 : Rat) ^ ((size.log2 : Int) - den.log2 - 1) < (size : Rat) / den ∧
      (size : Rat) / den < 2 ^ ((size.log2 : Int) - den.log2 + 1) := by
  have below : (2 : Rat) ^ (size.log2 : Int) ≤ size := by
    exact_mod_cast Nat.log2_self_le positive.ne'
  have above : (size : Rat) < 2 ^ ((size.log2 : Int) + 1) := by
    exact_mod_cast Nat.lt_log2_self
  have under : (2 : Rat) ^ (den.log2 : Int) ≤ den := by
    exact_mod_cast Nat.log2_self_le divisor.ne'
  have beyond : (den : Rat) < 2 ^ ((den.log2 : Int) + 1) := by
    exact_mod_cast Nat.lt_log2_self
  have whole : (0 : Rat) < den := by exact_mod_cast divisor
  constructor
  · rw [lt_div_iff₀ whole]
    calc (2 : Rat) ^ ((size.log2 : Int) - den.log2 - 1) * den
        < 2 ^ ((size.log2 : Int) - den.log2 - 1) * 2 ^ ((den.log2 : Int) + 1) := by
          gcongr
      _ = 2 ^ (size.log2 : Int) := by rw [← power_add]; congr 1; ring
      _ ≤ size := below
  · rw [div_lt_iff₀ whole]
    calc (size : Rat) < 2 ^ ((size.log2 : Int) + 1) := above
      _ = 2 ^ ((size.log2 : Int) - den.log2 + 1) * 2 ^ (den.log2 : Int) := by
          rw [← power_add]; congr 1; ring
      _ ≤ 2 ^ ((size.log2 : Int) - den.log2 + 1) * den := by gcongr

lemma compared_quotient (size : Nat) (divisor : 0 < den) (guess : Int) : (if 0 ≤ guess then den * Nat.pow 2 guess.toNat ≤ size
      else den ≤ size * Nat.pow 2 (-guess).toNat) ↔ (2 : Rat) ^ guess ≤ (size : Rat) / den := by
  have whole : (0 : Rat) < den := by exact_mod_cast divisor
  rw [le_div_iff₀ whole]
  by_cases sign : 0 ≤ guess
  · obtain ⟨n, rfl⟩ := eq_ofNat_of_zero_le sign
    rw [if_pos sign, toNat_natCast, zpow_natCast, mul_comm]
    exact_mod_cast Iff.rfl
  · obtain ⟨n, rfl⟩ := exists_eq_neg_ofNat (show guess ≤ 0 by omega)
    rw [if_neg sign, neg_neg, toNat_natCast, zpow_neg, zpow_natCast, inv_mul_le_iff₀ (by positivity), mul_comm]
    exact_mod_cast Iff.rfl

lemma binary_exponent_bounds (value : Rat) (nonzero : value ≠ 0) :
    (2 : Rat) ^ binaryExponent value ≤ |value| ∧ |value| < 2 ^ (binaryExponent value + 1) := by
  have size : 0 < value.num.natAbs := by
    have := Rat.num_ne_zero.mpr nonzero
    omega
  obtain ⟨low, high⟩ := quotient_between size value.den_pos
  have test := compared_quotient value.num.natAbs value.den_pos ((value.num.natAbs.log2 : Int) - value.den.log2)
  rw [← abs_quotient] at low high test
  by_cases reached : (2 : Rat) ^ ((value.num.natAbs.log2 : Int) - value.den.log2) ≤ |value|
  · have exponent : binaryExponent value = (value.num.natAbs.log2 : Int) - value.den.log2 := if_pos (test.mpr reached)
    rw [exponent]
    exact ⟨reached, high⟩
  · have exponent : binaryExponent value = (value.num.natAbs.log2 : Int) - value.den.log2 - 1 := if_neg (mt test.mp reached)
    rw [exponent, sub_add_cancel]
    exact ⟨low.le, not_le.mp reached⟩

lemma binary_exponent_unique {value : Rat} {e : Int} (low : (2 : Rat) ^ e ≤ |value|)
    (high : |value| < 2 ^ (e + 1)) : binaryExponent value = e := by
  have nonzero : value ≠ 0 := by
    rintro rfl
    rw [abs_zero] at low
    exact absurd (power_positive e) (not_lt.mpr low)
  obtain ⟨above, below⟩ := binary_exponent_bounds value nonzero
  have left := power_lt.mp (low.trans_lt below)
  have right := power_lt.mp (above.trans_lt high)
  omega

lemma binary_exponent_lt (m : Int) (e : Int) (precision : Nat) (nonzero : m ≠ 0)
    (fits : m.natAbs < 2 ^ precision) : binaryExponent ((m : Rat) * 2 ^ e) < precision + e := by
  have scale := power_positive e
  obtain ⟨above, _⟩ := binary_exponent_bounds ((m : Rat) * 2 ^ e) (mul_ne_zero (by exact_mod_cast nonzero) scale.ne')
  have size : |(m : Rat)| < 2 ^ (precision : Int) := by
    rw [← cast_abs, zpow_natCast]
    have : |m| < 2 ^ precision := by
      rw [abs_eq_natAbs]
      exact_mod_cast fits
    exact_mod_cast this
  rw [abs_mul, abs_of_pos scale] at above
  apply power_lt.mp
  calc (2 : Rat) ^ binaryExponent ((m : Rat) * 2 ^ e) ≤ |(m : Rat)| * 2 ^ e := above
    _ < 2 ^ (precision : Int) * 2 ^ e := by gcongr
    _ = 2 ^ ((precision : Int) + e) := power_add.symm

lemma round_div_ge (positive : 0 < den) (below : k * den ≤ num) : k ≤ roundDiv num den := by
  have whole : k ≤ num / den := (Nat.le_div_iff_mul_le positive).mpr below
  simp only [roundDiv]
  split
  · exact whole
  · split <;> omega

lemma round_div_le (positive : 0 < den) (above : num ≤ k * den) : roundDiv num den ≤ k := by
  have parts := Nat.div_add_mod num den
  have whole : num / den ≤ k := Nat.div_le_of_le_mul (by rwa [Nat.mul_comm])
  rcases Nat.lt_or_eq_of_le whole with less | exact
  · simp only [roundDiv]
    split
    · exact whole
    · split <;> omega
  · -- The quotient is the bound itself, so nothing is left over.
    rw [exact, Nat.mul_comm] at parts
    have rest : num % den = 0 := by omega
    simp only [roundDiv, rest, exact]
    rw [if_pos (by omega)]

namespace Format

variable {format : Format} {m e : Int} {value : Rat}

lemma unit_le (nonzero : m ≠ 0) (fits : m.natAbs < 2 ^ format.precision)
    (above : format.minExponent ≤ e) : format.unitExponent ((m : Rat) * 2 ^ e) ≤ e := by
  have := binary_exponent_lt m e format.precision nonzero fits
  rw [unitExponent]
  omega

lemma signed_size {k : Int} : (if k < 0 then -(k.natAbs : Rat) else (k.natAbs : Rat)) = k := by
  split
  · rename_i negative
    rw [Nat.cast_natAbs, abs_of_neg negative, cast_neg, neg_neg]
  · rename_i positive
    rw [Nat.cast_natAbs, abs_of_nonneg (not_lt.mp positive)]

lemma round_div_one {n : Nat} : roundDiv n 1 = n := by
  simp only [roundDiv, Nat.mod_one, Nat.div_one]
  rfl

lemma nearest_of_scaled (format : Format) (k : Int)
    (scaled : value * pow2 (-format.unitExponent value) = k) : format.nearest value = value := by
  rw [nearest]
  split
  · rfl
  · have restored : (k : Rat) * pow2 (format.unitExponent value) = value := by
      rw [← scaled, pow2_eq, pow2_eq, mul_assoc, ← power_add, neg_add_cancel, zpow_zero, mul_one]
    have sign : value.num < 0 ↔ k < 0 := by
      rw [Rat.num_neg, ← restored, pow2_eq]
      have scale := power_positive (format.unitExponent value)
      rw [mul_neg_iff]
      constructor
      · rintro (⟨_, below⟩ | ⟨below, _⟩)
        · exact absurd below (not_lt.mpr scale.le)
        · exact_mod_cast below
      · intro below
        exact .inr ⟨by exact_mod_cast below, scale⟩
    simp only [scaled, Rat.num_intCast, Rat.den_intCast, round_div_one, sign, signed_size, restored]

lemma nearest_dyadic (fits : m.natAbs < 2 ^ format.precision) (above : format.minExponent ≤ e) :
    format.nearest ((m : Rat) * 2 ^ e) = (m : Rat) * 2 ^ e := by
  by_cases zero : m = 0
  · subst zero
    simp [nearest]
  · obtain ⟨k, exponent⟩ := eq_ofNat_of_zero_le (show 0 ≤ e - format.unitExponent ((m : Rat) * 2 ^ e) by
        have := unit_le zero fits above
        omega)
    apply nearest_of_scaled format (m * 2 ^ k)
    rw [pow2_eq, mul_assoc, ← power_add, ← sub_eq_add_neg, exponent]
    push_cast
    rw [zpow_natCast]

lemma signed_round_between (value : Rat) (k : Int) :
    let whole := roundDiv value.num.natAbs value.den
    let signed : Rat := if value < 0 then -(whole : Rat) else whole
    ((k : Rat) ≤ value → (k : Rat) ≤ signed) ∧ (value ≤ k → signed ≤ k) := by
  have size := abs_quotient value
  have divisor := value.den_pos
  have positive : (0 : Rat) < value.den := by exact_mod_cast divisor
  -- Both bounds are bounds on the size, one from below and one from above, by the sign.
  have ge (n : Nat) (below : (n : Rat) ≤ |value|) : n ≤ roundDiv value.num.natAbs value.den := by
    apply round_div_ge divisor
    rw [size, le_div_iff₀ positive] at below
    exact_mod_cast below
  have le (n : Nat) (above : |value| ≤ (n : Rat)) : roundDiv value.num.natAbs value.den ≤ n := by
    apply round_div_le divisor
    rw [size, div_le_iff₀ positive] at above
    exact_mod_cast above
  intro whole signed
  by_cases negative : value < 0
  · have signedEq : signed = -(whole : Rat) := if_pos negative
    rw [abs_of_neg negative] at ge le
    rw [signedEq]
    constructor
    · intro below
      have sign : k ≤ 0 := by
        have : (k : Rat) < 0 := lt_of_le_of_lt below negative
        exact_mod_cast this.le
      obtain ⟨n, rfl⟩ := exists_eq_neg_ofNat sign
      push_cast at below ⊢
      have : whole ≤ n := le n (by linarith)
      have : (whole : Rat) ≤ n := by exact_mod_cast this
      linarith
    · intro above
      rcases le_or_gt 0 k with sign | sign
      · have : (0 : Rat) ≤ k := by exact_mod_cast sign
        have : (0 : Rat) ≤ whole := by positivity
        linarith
      · obtain ⟨n, rfl⟩ := exists_eq_neg_ofNat sign.le
        push_cast at above ⊢
        have : n ≤ whole := ge n (by linarith)
        have : (n : Rat) ≤ whole := by exact_mod_cast this
        linarith
  · have signedEq : signed = (whole : Rat) := if_neg negative
    rw [abs_of_nonneg (not_lt.mp negative)] at ge le
    rw [signedEq]
    constructor
    · intro below
      rcases le_or_gt 0 k with sign | sign
      · obtain ⟨n, rfl⟩ := eq_ofNat_of_zero_le sign
        exact_mod_cast ge n (by exact_mod_cast below)
      · have : (k : Rat) < 0 := by exact_mod_cast sign
        have : (0 : Rat) ≤ whole := by positivity
        linarith
    · intro above
      have sign : 0 ≤ k := by
        have : (0 : Rat) ≤ k := (not_lt.mp negative).trans above
        exact_mod_cast this
      obtain ⟨n, rfl⟩ := eq_ofNat_of_zero_le sign
      exact_mod_cast le n (by exact_mod_cast above)

lemma unit_le_of_small {format : Format} {value : Rat} {e : Int} (above : format.minExponent ≤ e)
    (small : |value| < 2 ^ (format.precision + e)) (nonzero : value ≠ 0) : format.unitExponent value ≤ e := by
  have reached := (binary_exponent_bounds value nonzero).1
  have := power_lt.mp (reached.trans_lt small)
  rw [unitExponent]
  omega

section

variable (format : Format) (value : Rat)

lemma nearest_between (k e : Int) (coarse : value ≠ 0 → format.unitExponent value ≤ e) :
    ((k : Rat) * 2 ^ e ≤ value → (k : Rat) * 2 ^ e ≤ format.nearest value) ∧
      (value ≤ (k : Rat) * 2 ^ e → format.nearest value ≤ (k : Rat) * 2 ^ e) := by
  rw [nearest]
  split
  · exact ⟨id, id⟩
  · rename_i rounded
    have nonzero : value ≠ 0 := by
      rintro rfl
      exact rounded (by simp)
    obtain ⟨n, exponent⟩ := eq_ofNat_of_zero_le (show 0 ≤ e - format.unitExponent value by
        have := coarse nonzero
        omega)
    -- In units of the value, the multiple of the coarser unit is an integer.
    have scale := power_positive (format.unitExponent value)
    have multiple : (k : Rat) * 2 ^ e = ((k * 2 ^ n : Int) : Rat) * 2 ^ format.unitExponent value := by
      rw [show e = n + format.unitExponent value by omega, power_add, zpow_natCast]
      push_cast
      ring
    have scaled : value * pow2 (-format.unitExponent value) = value / 2 ^ format.unitExponent value := by
      rw [pow2_eq, zpow_neg, div_eq_mul_inv]
    have sign : value.num < 0 ↔ value / 2 ^ format.unitExponent value < 0 := by
      rw [Rat.num_neg, div_lt_iff₀ scale, zero_mul]
    obtain ⟨ge, le⟩ := signed_round_between (value / 2 ^ format.unitExponent value) (k * 2 ^ n)
    simp only [sign, scaled]
    rw [multiple, pow2_eq]
    constructor
    · intro below
      exact mul_le_mul_of_nonneg_right (ge ((le_div_iff₀ scale).mpr below)) scale.le
    · intro beyond
      exact mul_le_mul_of_nonneg_right (le ((div_le_iff₀ scale).mpr beyond)) scale.le

lemma nearest_power (e : Int) (bits : 1 ≤ format.precision)
    (above : format.minExponent ≤ e) (reached : 2 ^ e ≤ value) : 2 ^ e ≤ format.nearest value := by
  have positive : 0 < value := (power_positive e).trans_le reached
  obtain ⟨low, high⟩ := binary_exponent_bounds value positive.ne'
  rw [abs_of_pos positive] at low high
  have leading : e < binaryExponent value + 1 := power_lt.mp (reached.trans_lt high)
  have unit : format.unitExponent value ≤ binaryExponent value := by
    rw [unitExponent]
    omega
  calc (2 : Rat) ^ e ≤ 2 ^ binaryExponent value := zpow_le_zpow_right₀ (by norm_num) (by omega)
    _ ≤ format.nearest value := by
        have kept := (nearest_between format value 1 (binaryExponent value) fun _ => unit).1
        simp only [cast_one, one_mul] at kept
        exact kept low

lemma nearest_neg : format.nearest (-value) = -format.nearest value := by
  have exponent : format.unitExponent (-value) = format.unitExponent value := by
    simp only [unitExponent, binaryExponent, Rat.neg_num, Rat.neg_den, natAbs_neg]
  simp only [nearest, exponent, Rat.neg_num, Rat.neg_den, natAbs_neg, neg_mul]
  split
  · rfl
  · rename_i rounded
    have nonzero : value.num ≠ 0 := by
      intro none
      exact rounded (by simp [Rat.num_eq_zero.mp none])
    by_cases negative : value.num < 0
    · rw [if_neg (by omega), if_pos negative]
      ring
    · rw [if_pos (by omega), if_neg negative]
      ring

lemma overflow_iff :
    (Nat.pow 2 format.maxExponent : Int) * (value.den : Int) ≤ (value.num.natAbs : Int) ↔
      (2 : Rat) ^ (format.maxExponent : Int) ≤ |value| := by
  have whole : (0 : Rat) < value.den := by exact_mod_cast value.den_pos
  rw [abs_quotient, le_div_iff₀ whole, zpow_natCast, Nat.pow_eq]
  exact_mod_cast Iff.rfl

lemma round_of_bounded (below : |format.nearest value| < 2 ^ (format.maxExponent : Int)) :
    format.round value = .finite (format.nearest value) := by
  have finite := mt (overflow_iff format (format.nearest value)).mp (not_le.mpr below)
  simp only [round, if_neg finite]

end

lemma round_of_nearest (kept : format.nearest value = value)
    (below : |value| < 2 ^ (format.maxExponent : Int)) : format.round value = .finite value := by
  rw [round_of_bounded format value (by rwa [kept]), kept]

lemma round_dyadic (format : Format) (m e : Int) (fits : m.natAbs < 2 ^ format.precision)
    (above : format.minExponent ≤ e) (below : (format.precision : Int) + e ≤ format.maxExponent) :
    format.round ((m : Rat) * 2 ^ e) = .finite ((m : Rat) * 2 ^ e) := by
  apply round_of_nearest (nearest_dyadic fits above)
  have size : |(m : Rat)| < 2 ^ (format.precision : Int) := by
    rw [← cast_abs, zpow_natCast, abs_eq_natAbs]
    exact_mod_cast fits
  rw [abs_mul, abs_of_pos (power_positive e)]
  calc |(m : Rat)| * 2 ^ e < 2 ^ (format.precision : Int) * 2 ^ e := by
        have := power_positive e
        gcongr
    _ = 2 ^ ((format.precision : Int) + e) := power_add.symm
    _ ≤ 2 ^ (format.maxExponent : Int) := zpow_le_zpow_right₀ (by norm_num) below

end Format

lemma Number.round_large (value : Rat) (large : 2 ^ 49 ≤ value) : Number.round value = .infinity false ∨
      ∃ result, Number.round value = .finite result ∧ 2 ^ 49 ≤ result := by
  have kept := nearest_power binary64 value 49 (by decide) (by decide) (by exact_mod_cast large)
  have sign : ¬ value.num < 0 := by
    rw [Rat.num_neg, not_lt]
    exact le_trans (by norm_num) large
  by_cases bounded : |binary64.nearest value| < 2 ^ (binary64.maxExponent : Int)
  · exact .inr ⟨_, round_of_bounded binary64 value bounded, by exact_mod_cast kept⟩
  · left
    have overflow := (overflow_iff binary64 _).mpr (not_lt.mp bounded)
    rw [Number.round, Format.round]
    simp only [if_pos overflow, sign, decide_false]

lemma Number.round_between (value : Rat) (small : |value| < 2 ^ 49) : ∃ result, Number.round value = .finite result ∧
      ∀ k : Int, ((k : Rat) / 16 ≤ value → (k : Rat) / 16 ≤ result) ∧ (value ≤ (k : Rat) / 16 → result ≤ (k : Rat) / 16) := by
  have sixteenth (k : Int) : (k : Rat) / 16 = (k : Rat) * 2 ^ (-4 : Int) := by
    rw [div_eq_mul_inv, zpow_neg]
    norm_num
  have between (k : Int) := nearest_between binary64 value k (-4) (unit_le_of_small (by decide) (by simpa [binary64] using small))
  simp only [← sixteenth] at between
  refine ⟨binary64.nearest value, ?_, between⟩
  -- The result lies between two small multiples of a sixteenth, so it does not overflow.
  have least := (between (-2 ^ 53)).1
  have most := (between (2 ^ 53)).2
  push_cast at least most
  norm_num at least most small
  have size : |binary64.nearest value| ≤ 2 ^ 49 := by
    rw [abs_le]
    rw [abs_lt] at small
    norm_num
    exact ⟨least small.1.le, most small.2.le⟩
  apply round_of_bounded
  calc |binary64.nearest value| ≤ 2 ^ (49 : Int) := by exact_mod_cast size
    _ < 2 ^ (binary64.maxExponent : Int) := power_lt.mpr (by decide)

end WasmLua
