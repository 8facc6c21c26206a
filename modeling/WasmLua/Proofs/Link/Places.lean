import WasmLua.Exec.Link
import WasmLua.Proofs.Number.Values

namespace WasmLua

namespace Number

lemma truncated_fraction (q : Rat) :
    |q - (q.num.tdiv q.den : Int)| < 1 ∧ (0 ≤ q → 0 ≤ q - (q.num.tdiv q.den : Int) ∧ 0 ≤ ((q.num.tdiv q.den : Int) : Rat)) := by
  have divisor : (0 : Int) < q.den := by exact_mod_cast q.den_pos
  have positive : (0 : Rat) < q.den := by exact_mod_cast q.den_pos
  have fraction : q - (q.num.tdiv q.den : Int) = (q.num.tmod q.den : Int) / q.den := by
    rw [eq_div_iff positive.ne', sub_mul, Rat.mul_den_eq_num, Int.tmod_def]
    push_cast
    ring
  have above := Int.tmod_lt_of_pos q.num divisor
  have below := Int.lt_tmod_of_pos q.num divisor
  rw [fraction]
  constructor
  · rw [abs_div, abs_of_pos positive, div_lt_one positive, abs_lt]
    exact ⟨by exact_mod_cast below, by exact_mod_cast above⟩
  · intro sign
    have numerator : 0 ≤ q.num := Rat.num_nonneg.mpr sign
    have rest := Int.tmod_nonneg (q.den : Int) numerator
    have whole := Int.tdiv_nonneg numerator divisor.le
    exact ⟨div_nonneg (by exact_mod_cast rest) positive.le, by exact_mod_cast whole⟩

lemma remainder_bounds (a b : Rat) (positive : 0 < b) :
    |truncatedRemainder a b| < b ∧ (0 ≤ a → 0 ≤ truncatedRemainder a b ∧ truncatedRemainder a b ≤ a) := by
  obtain ⟨size, sign⟩ := truncated_fraction (a / b)
  have rest : truncatedRemainder a b = b * (a / b - ((a / b).num.tdiv (a / b).den : Int)) := by
    rw [mul_sub, mul_div_cancel₀ a positive.ne']
    rfl
  constructor
  · rw [rest, abs_mul, abs_of_pos positive]
    exact mul_lt_of_lt_one_right positive size
  · intro start
    obtain ⟨least, whole⟩ := sign (div_nonneg start positive.le)
    refine ⟨rest ▸ mul_nonneg positive.le least, ?_⟩
    exact sub_le_self a (mul_nonneg positive.le whole)

def isFinite : Number → Bool
  | .negZero => true
  | .finite _ => true
  | _ => false

lemma le_finite {a b : Rat} : le (.finite a) (.finite b) = decide (a ≤ b) := by
  have spelled : le (.finite a) (.finite b) = (decide (a < b) || a == b) := rfl
  rw [spelled, Bool.eq_iff_iff]
  simp [le_iff_lt_or_eq]

lemma mod_positive {a : Number} {y : Int} (finite : a.isFinite = true) (positive : 0 < y) : a.mod (ofInt y) =
      if (truncatedRemainder a.rational y).num == 0 then .finite 0
      else if decide ((truncatedRemainder a.rational y).num < 0) == false then
        .finite (truncatedRemainder a.rational y)
      else round (truncatedRemainder a.rational y + y) := by
  have sign : (ofInt y).isNegative = false := by
    simp only [ofInt, isNegative, Rat.num_intCast]
    exact decide_eq_false (by omega)
  have nonzero : (Number.finite (y : Rat)).isZero = false := (zero_int y).trans (decide_eq_false positive.ne')
  rw [← sign]
  cases a with
  | nan | infinity negative => simp [isFinite] at finite
  | negZero | finite value =>
    simp only [mod, ofInt, nonzero]
    rfl

end Number

namespace Exec

open Number

lemma unsigned_between (number : Number) (finite : number.isFinite = true) :
    ∃ place, Arithmetic.unsigned number = .finite place ∧ 0 ≤ place ∧ place ≤ 2 ^ 32 ∧
      (0 ≤ number.rational → place ≤ number.rational) := by
  have made : Arithmetic.unsigned number = number.mod (ofInt (2 ^ 32)) := by
    rw [Arithmetic.unsigned, arithmetic_two]
    rfl
  obtain ⟨size, start⟩ := remainder_bounds number.rational ((2 ^ 32 : Int) : Rat) (by norm_num)
  rw [made, mod_positive finite (by norm_num)]
  generalize truncatedRemainder number.rational ((2 ^ 32 : Int) : Rat) = rest at size start ⊢
  rw [abs_lt] at size
  push_cast at size ⊢
  by_cases zero : rest = 0
  · refine ⟨0, by simp [zero], le_rfl, by norm_num, ?_⟩
    exact id
  · have test : (rest.num == 0) = false := by simpa using zero
    by_cases negative : rest < 0
    · -- A negative remainder is moved up by the divisor, and that sum is rounded.
      have sign : rest.num < 0 := Rat.num_neg.mpr negative
      obtain ⟨place, rounded, between⟩ := round_between (rest + 4294967296) (by
        rw [abs_lt]
        constructor <;> linarith)
      refine ⟨place, ?_, ?_, ?_, ?_⟩
      · simpa [test, sign] using rounded
      · have := (between 0).1
        norm_num at this
        exact this (by linarith)
      · have := (between (2 ^ 36)).2
        norm_num at this ⊢
        exact this (by linarith)
      · intro above
        exact absurd (start above).1 (not_le.mpr negative)
    · have sign : ¬ rest.num < 0 := by rwa [Rat.num_neg]
      refine ⟨rest, ?_, not_lt.mp negative, size.2.le, fun above => (start above).2⟩
      simp [test, sign]

lemma near_sum (a b : Rat) (small : |a + b| < 2 ^ 49) :
    ∃ sum, finite a + finite b = .finite sum ∧ a + b ≤ sum + 1 / 16 ∧ sum ≤ a + b + 1 / 16 ∧
      ∀ k : Int, (k : Rat) ≤ a + b → (k : Rat) ≤ sum := by
  obtain ⟨sum, rounded, between⟩ := round_between (a + b) small
  refine ⟨sum, by rw [add_finite, rounded], ?_, ?_, ?_⟩
  · have reached := (between ⌊16 * (a + b)⌋).1 ((div_le_iff₀ (by norm_num)).mpr (by linarith [Int.floor_le (16 * (a + b))]))
    have := Int.lt_floor_add_one (16 * (a + b))
    linarith
  · have bounded := (between ⌈16 * (a + b)⌉).2 ((le_div_iff₀ (by norm_num)).mpr (by linarith [Int.le_ceil (16 * (a + b))]))
    have := Int.ceil_lt_add_one (16 * (a + b))
    linarith
  · intro k below
    have := (between (16 * k)).1
    push_cast at this
    rw [mul_div_cancel_left₀ _ (by norm_num : (16 : Rat) ≠ 0)] at this
    exact this below

def sizeLimit : Int := 2 ^ 48

variable {size start : Number} {length : Nat}

lemma fits_of_check (finite : start.isFinite = true) (measured : size.le (ofInt sizeLimit) = true)
    (occupied : 0 < length) (fits : size.lt (Arithmetic.unsigned start + .ofInt length) = false) :
    ∃ bound place, size = .finite bound ∧ Arithmetic.unsigned start = .finite place ∧
      0 ≤ place ∧ place + length ≤ bound + 1 / 16 ∧ bound ≤ 2 ^ 48 := by
  obtain ⟨place, unsigned, least, most, _⟩ := unsigned_between start finite
  have count : (1 : Rat) ≤ length := by exact_mod_cast occupied
  -- The end is a number from 1 on, or infinite.
  have ends : Arithmetic.unsigned start + .ofInt length = .infinity false ∨
      ∃ sum, Arithmetic.unsigned start + .ofInt length = .finite sum ∧ 1 ≤ sum ∧
        (place + length ≤ sum + 1 / 16 ∨ 2 ^ 49 ≤ sum) := by
    rw [unsigned, ofInt]
    by_cases small : place + length < 2 ^ 49
    · obtain ⟨sum, added, below, _, whole⟩ := near_sum place ((length : Int) : Rat) (by
        push_cast
        rw [abs_of_nonneg (by linarith)]
        exact small)
      push_cast at added below whole ⊢
      refine .inr ⟨sum, added, ?_, .inl below⟩
      have := whole 1
      push_cast at this
      exact this (by linarith)
    · rw [add_finite]
      push_cast
      rcases round_large (place + length) (not_lt.mp small) with endless | ⟨sum, rounded, large⟩
      · exact .inl endless
      · exact .inr ⟨sum, rounded, by linarith, .inr large⟩
  cases size with
  | nan => simp [le, lt, eq] at measured
  | infinity negative =>
    cases negative with
    | false => simp [le, lt, eq, ofInt] at measured
    | true =>
      rcases ends with endless | ⟨sum, added, _⟩
      · simp [endless, lt] at fits
      · simp [added, lt] at fits
  | negZero =>
    rcases ends with endless | ⟨sum, added, positive, _⟩
    · simp [endless, lt] at fits
    · rw [added] at fits
      have above : ¬ (0 : Rat) < sum := of_decide_eq_false fits
      exact absurd (by linarith) above
  | finite bound =>
    have limit : bound ≤ 2 ^ 48 := by
      rw [ofInt, le_finite] at measured
      have limit := of_decide_eq_true measured
      norm_num [sizeLimit] at limit ⊢
      exact limit
    rcases ends with endless | ⟨sum, added, positive, reached⟩
    · simp [endless, lt] at fits
    · rw [added] at fits
      have above : ¬ bound < sum := of_decide_eq_false fits
      refine ⟨bound, place, rfl, unsigned, least, ?_, limit⟩
      rcases reached with near | far <;> linarith

lemma piece_start (position : Nat) {place : Rat} (unsigned : Arithmetic.unsigned start = .finite place)
    (least : 0 ≤ place) (small : place + position < 2 ^ 49) :
    ∃ first, Arithmetic.unsigned (Link.pieceOffset start position) = .finite first ∧ 0 ≤ first ∧
      first ≤ place + position + 1 / 16 := by
  by_cases beginning : position = 0
  · subst beginning
    refine ⟨place, by rwa [Link.pieceOffset, if_pos rfl], least, ?_⟩
    push_cast
    linarith
  · -- A later piece is placed by a sum, and the sum is read as unsigned again.
    have count : (0 : Rat) ≤ position := by positivity
    obtain ⟨sum, added, _, near, whole⟩ := near_sum place ((position : Int) : Rat) (by
      push_cast
      rw [abs_of_nonneg (by linarith)]
      exact small)
    push_cast at near whole
    have offset : Link.pieceOffset start position = .finite sum := by
      rw [Link.pieceOffset, if_neg beginning, unsigned, ofInt, added]
    have positive : 0 ≤ sum := by
      have := whole 0
      push_cast at this
      exact this (by linarith)
    obtain ⟨first, again, bottom, _, below⟩ := unsigned_between (.finite sum) rfl
    refine ⟨first, by rw [offset, again], bottom, ?_⟩
    exact (below positive).trans near

def Inside (size key : Number) : Prop := (Number.ofInt 0).le key = true ∧ key.lt size = true

lemma piece_inside {position count item : Nat} (finite : start.isFinite = true) (measured : size.le (ofInt sizeLimit) = true)
    (fits : size.lt (Arithmetic.unsigned start + .ofInt length) = false)
    (part : position + count ≤ length) (first : 1 ≤ item) (last : item ≤ count) :
    (Arithmetic.unsigned (Link.pieceOffset start position) - .ofInt 1).isNaN = false ∧
      Inside size (Arithmetic.unsigned (Link.pieceOffset start position) - .ofInt 1 + .ofInt item) := by
  obtain ⟨bound, place, rfl, unsigned, least, ends, limit⟩ := fits_of_check finite measured (by omega) fits
  have total : (position : Rat) + item ≤ length := by exact_mod_cast (show position + item ≤ length by omega)
  have counted : (1 : Rat) ≤ item := by exact_mod_cast first
  have behind : (0 : Rat) ≤ position := by positivity
  obtain ⟨begin, again, bottom, near⟩ := piece_start position unsigned least (by linarith)
  -- One place before the first item, which may be one before the target itself.
  obtain ⟨base, before, _, baseNear, baseWhole⟩ := near_sum begin (-1) (by
    rw [abs_lt]
    constructor <;> linarith)
  have lowest : -1 ≤ base := by
    have := baseWhole (-1)
    push_cast at this
    exact this (by linarith)
  have spelled : Arithmetic.unsigned (Link.pieceOffset start position) - .ofInt 1 = .finite base := by
    rw [again, ← before]
    rfl
  obtain ⟨key, added, _, keyNear, keyWhole⟩ := near_sum base ((item : Int) : Rat) (by
    push_cast
    rw [abs_lt]
    constructor <;> linarith)
  push_cast at keyNear keyWhole
  have nonneg : 0 ≤ key := by
    have := keyWhole 0
    push_cast at this
    exact this (by linarith)
  rw [spelled, Inside, ofInt, ofInt, added]
  refine ⟨rfl, ?_, ?_⟩
  · rw [le_finite]
    exact decide_eq_true (by exact_mod_cast nonneg)
  · exact decide_eq_true (show key < bound by linarith)

end Exec

end WasmLua
