import WasmLua.Proofs.Number.Values

namespace WasmLua

open Format

namespace Format

def significand (format : Format) (field fraction : Nat) : Nat :=
  if field = 0 then fraction else 2 ^ format.fractionBits + fraction

def scale (format : Format) (field : Nat) : Int := max (field : Int) 1 - 1 + format.minExponent

def magnitude (format : Format) (field fraction : Nat) : Rat := (format.significand field fraction : Rat) * 2 ^ format.scale field

def compose (format : Format) (negative : Bool) (field fraction : Nat) : Number :=
  if field = 2 ^ format.exponentBits - 1 then
    if fraction = 0 then .infinity negative else .nan
  else if negative then
    if format.magnitude field fraction = 0 then .negZero
    else .finite (-format.magnitude field fraction)
  else .finite (format.magnitude field fraction)

lemma decode_compose (format : Format) (bits : Nat) : format.decode bits = format.compose
      (bits / 2 ^ (format.fractionBits + format.exponentBits) % 2 == 1)
      (bits / 2 ^ format.fractionBits % 2 ^ format.exponentBits) (bits % 2 ^ format.fractionBits) := by
  simp only [decode, compose, Nat.pow_eq]
  have parts (field fraction : Nat) :
      (if field = 0 then (fraction : Rat) * pow2 format.minExponent else ((2 ^ format.fractionBits + fraction : Nat) : Rat)
          * pow2 ((field : Int) - 1 + format.minExponent)) = format.magnitude field fraction := by
    rw [magnitude, significand, scale, pow2_eq, pow2_eq]
    split
    · rename_i zero
      subst zero
      norm_num
    · rename_i nonzero
      rw [max_eq_left (by omega)]
  simp only [parts, beq_iff_eq, Rat.num_eq_zero]

lemma decode32 (word : Nat) : binary32.decode word
      = binary32.compose (word / 2 ^ 31 % 2 == 1) (word / 2 ^ 23 % 2 ^ 8) (word % 2 ^ 23) :=
  decode_compose binary32 word

lemma decode64 (word : Nat) : binary64.decode word
      = binary64.compose (word / 2 ^ 63 % 2 == 1) (word / 2 ^ 52 % 2 ^ 11) (word % 2 ^ 52) :=
  decode_compose binary64 word

def canonical (format : Format) (bits : Nat) : Nat :=
  if format.decode bits = .nan then format.encode .nan else bits

lemma magnitude_zero (format : Format) (field fraction : Nat) :
    format.magnitude field fraction = 0 ↔ field = 0 ∧ fraction = 0 := by
  have unit := power_positive (format.scale field)
  rw [magnitude, mul_eq_zero, or_iff_left unit.ne', Nat.cast_eq_zero, significand]
  have bits := Nat.two_pow_pos format.fractionBits
  split <;> omega

variable {format : Format} {field fraction : Nat}

lemma compose_finite (negative : Bool) (fraction : Nat) (below : field ≠ 2 ^ format.exponentBits - 1) :
    format.compose negative field fraction =
      if field = 0 ∧ fraction = 0 ∧ negative = true then .negZero
      else .finite (if negative then -format.magnitude field fraction else format.magnitude field fraction) := by
  rw [compose, if_neg below]
  cases negative with
  | false => simp
  | true => simp [magnitude_zero]

lemma compose_nan (format : Format) (negative : Bool) : format.compose negative field fraction = .nan
      ↔ field = 2 ^ format.exponentBits - 1 ∧ fraction ≠ 0 := by
  by_cases top : field = 2 ^ format.exponentBits - 1
  · rw [compose, if_pos top]
    split <;> simp_all
  · rw [compose_finite _ _ top]
    split <;> simp [top]

lemma compose_positive (below : field ≠ 2 ^ format.exponentBits - 1) :
    format.compose false field fraction = .finite (format.magnitude field fraction) := by
  rw [compose_finite _ _ below]
  simp

lemma magnitude_nonneg (format : Format) (field fraction : Nat) : 0 ≤ format.magnitude field fraction := by
  have unit := power_positive (format.scale field)
  rw [magnitude]
  positivity

lemma compose_sign {negative : Bool} (known : format.compose negative field fraction ≠ .nan) :
    (format.compose negative field fraction).isNegative = negative ∧
      (format.compose negative field fraction).abs = format.compose false field fraction := by
  have size := magnitude_nonneg format field fraction
  have unsigned : ¬ (format.magnitude field fraction).num < 0 := by
    rw [Rat.num_neg]
    exact not_lt.mpr size
  by_cases top : field = 2 ^ format.exponentBits - 1
  · by_cases infinite : fraction = 0
    · simp [compose, top, infinite, Number.isNegative, Number.abs]
    · simp [compose, top, infinite] at known
  · rw [compose_finite _ _ top, compose_finite _ _ top]
    cases negative with
    | false => simp [Number.isNegative, Number.abs, unsigned]
    | true =>
      by_cases zero : field = 0 ∧ fraction = 0
      · have none := (magnitude_zero format field fraction).mpr zero
        simp [zero.1, zero.2, Number.isNegative, Number.abs]
        rw [← none, zero.1, zero.2]
      · have positive : 0 < (format.magnitude field fraction).num := by
          have := mt (magnitude_zero format field fraction).mp zero
          rw [Rat.num_pos]
          exact lt_of_le_of_ne size (Ne.symm this)
        rw [if_neg (by simpa using zero)]
        simp [Number.isNegative, Number.abs, positive]

structure Narrow (format : Format) : Prop where
  leading : format.fractionBits + 1 ≤ 53
  least : -1074 ≤ format.minExponent
  several : 2 < 2 ^ format.exponentBits
  most : ((2 ^ format.exponentBits : Nat) : Int) + format.minExponent + 50 ≤ 1024

lemma narrow32 : Narrow binary32 := ⟨by decide, by decide, by decide, by decide⟩

lemma narrow64 : Narrow binary64 := ⟨by decide, by decide, by decide, by decide⟩

section Finite

variable {format : Format} {field fraction : Nat} (narrow : format.Narrow)
  (inside : field < 2 ^ format.exponentBits - 1) (cut : fraction < 2 ^ format.fractionBits)

include narrow cut in
lemma significand_lt : format.significand field fraction < 2 ^ 53 := by
  have bits : 2 ^ (format.fractionBits + 1) ≤ 2 ^ 53 := Nat.pow_le_pow_right (by decide) narrow.leading
  rw [Nat.pow_succ] at bits
  rw [significand]
  split <;> omega

include narrow in
lemma scale_least : -1074 ≤ format.scale field := by
  have := narrow.least
  rw [scale]
  omega

include narrow inside in
lemma scale_most : 53 + format.scale field ≤ 1024 := by
  have several := narrow.several
  have most := narrow.most
  generalize 2 ^ format.exponentBits = fields at *
  rw [scale]
  omega

include narrow inside cut in
lemma round_magnitude (sign : Int) (unit : sign = 1 ∨ sign = -1) : Number.round (sign * format.magnitude field fraction)
      = .finite (sign * format.magnitude field fraction) := by
  have scaled : (sign : Rat) * format.magnitude field fraction
      = ((sign * format.significand field fraction : Int) : Rat) * 2 ^ format.scale field := by
    rw [magnitude]
    push_cast
    ring
  have fits := @significand_lt format field fraction narrow cut
  rw [scaled]
  apply round_dyadic binary64
  · change _ < 2 ^ 53
    rcases unit with rfl | rfl <;> omega
  · exact scale_least narrow
  · exact scale_most narrow inside

include cut in
lemma exponent_subnormal (nonzero : fraction ≠ 0) :
    binaryExponent (format.magnitude 0 fraction) < format.fractionBits + format.minExponent := by
  have bound := binary_exponent_lt fraction (format.scale 0) format.fractionBits (by exact_mod_cast nonzero) (by simpa using cut)
  have unit : format.scale 0 = format.minExponent := by simp [scale]
  rw [unit] at bound
  rw [magnitude, significand, if_pos rfl, unit]
  exact_mod_cast bound

include cut in
lemma exponent_normal (normal : field ≠ 0) :
    binaryExponent (format.magnitude field fraction) = format.fractionBits + format.scale field := by
  have unit := power_positive (format.scale field)
  have low : (2 : Rat) ^ (format.fractionBits : Int) ≤ format.significand field fraction := by
    rw [significand, if_neg normal, zpow_natCast]
    push_cast
    have : (0 : Rat) ≤ fraction := by positivity
    linarith
  have high : (format.significand field fraction : Rat) < 2 ^ ((format.fractionBits : Int) + 1) := by
    have : format.significand field fraction < 2 ^ (format.fractionBits + 1) := by
      rw [significand, if_neg normal, Nat.pow_succ]
      omega
    exact_mod_cast this
  apply binary_exponent_unique
  · rw [abs_of_nonneg (magnitude_nonneg format field fraction), magnitude, power_add]
    gcongr
  · rw [abs_of_nonneg (magnitude_nonneg format field fraction), magnitude, add_right_comm, power_add]
    gcongr

end Finite

end Format

namespace Number

lemma ldexp_whole {m : Nat} {e : Int} (fits : m < 2 ^ 53) (least : -1074 ≤ e) (most : 53 + e ≤ 1024) :
    ldexp (ofInt m) e = .finite ((m : Rat) * 2 ^ e) := by
  have rounded : binary64.round ((m : Int) * 2 ^ e) = .finite ((m : Int) * 2 ^ e) :=
    round_dyadic .binary64 m e (by rwa [Int.natAbs_natCast]) least most
  have positive : ¬ ((m : Int) : Rat).num < 0 := by
    rw [Rat.num_intCast]
    omega
  simp only [ldexp, ofInt, roundSigned, pow2_eq, rounded, decide_eq_false positive, Bool.and_false]
  rfl

end Number

namespace Exec.Conversion

open Numeric FloatNumeric Format
open Floating (isNaN signbit)

variable {a : Number}

lemma value_ldexp {e : Int} : FloatNumeric.ldexp (Value.number a) e = .ok (a.ldexp e) := rfl

lemma value_frexp : FloatNumeric.frexp (Value.number a) = .ok a.frexp := rfl

section Assembly

variable {format : Format} {field fraction : Nat} (narrow : format.Narrow) (cut : fraction < 2 ^ format.fractionBits)

include narrow cut in
lemma signed_magnitude (negative : Bool) (inside : field < 2 ^ format.exponentBits - 1) :
    signed negative (Value.number (.finite (format.magnitude field fraction)))
      = .ok (.number (.finite (if negative then -format.magnitude field fraction else format.magnitude field fraction))) := by
  have rounded := round_magnitude narrow inside cut
  rw [signed, value_int, value_mul, Number.ofInt, Number.mul_finite]
  cases negative with
  | false => simpa using rounded 1 (.inl rfl)
  | true => simpa using rounded (-1) (.inr rfl)

include narrow cut in
lemma ldexp_significand (inside : field < 2 ^ format.exponentBits - 1) :
    Number.ldexp (.ofInt (format.significand field fraction)) (format.scale field) = .finite (format.magnitude field fraction) :=
  Number.ldexp_whole (significand_lt narrow cut) (scale_least narrow) (scale_most narrow inside)

include narrow cut in
lemma assemble_compose (negative : Bool) (inside : field < 2 ^ format.exponentBits) :
    assemble (Value.number .negZero) negative (2 ^ format.exponentBits - 1) format.minExponent
      (.number (.ofInt (2 ^ format.fractionBits : Nat))) (.number (.ofInt field))
      (.number (.ofInt fraction)) = .ok (.number (format.compose negative field fraction)) := by
  rw [assemble, value_int, value_eq, Number.eq_int, value_zero, value_zero]
  simp only [decide_eq_true_eq, Nat.cast_inj, Nat.cast_eq_zero]
  by_cases top : field = 2 ^ format.exponentBits - 1
  · rw [if_pos top, compose, if_pos top]
    split
    · cases negative <;> rfl
    · rfl
  · have below : field < 2 ^ format.exponentBits - 1 := by omega
    have made := signed_magnitude narrow cut negative below
    have number := ldexp_significand narrow cut below
    rw [if_neg top, compose_finite negative fraction top]
    by_cases subnormal : field = 0
    · subst subnormal
      have unit : format.scale 0 = format.minExponent := by simp [scale]
      rw [unit, significand, if_pos rfl] at number
      rw [if_pos rfl, value_ldexp, number, ok_bind]
      by_cases none : fraction = 0 ∧ negative = true
      · rw [if_pos (by simpa using none), if_pos ⟨rfl, none⟩]
        rfl
      · rw [if_neg (by simpa using none), if_neg (by simpa using none)]
        exact made
    · have unit : format.scale field = (field : Int) - 1 + format.minExponent := by
        rw [scale, max_eq_left (by omega)]
      have leading : (fraction : Int) + (2 ^ format.fractionBits : Nat) = format.significand field fraction := by
        rw [significand, if_neg subnormal]
        push_cast
        ring
      have fits := @significand_lt format field fraction narrow cut
      rw [if_neg subnormal, if_neg (by simp [subnormal]), value_add, Number.add_int _ (by omega),
        leading, ok_bind, value_whole, Option.getD_some, ← unit, value_ldexp, number, ok_bind]
      exact made

end Assembly

lemma parts32 (negative : Bool) (size : Nat) (inside : size < 2 ^ 31) : (do
      let biased ← floor (← div (Value.number (.ofInt size)) (ofInt 8388608))
      let fraction ← mod (Value.number (.ofInt size)) (ofInt 8388608)
      assemble (Value.number .negZero) negative 255 (-149) (ofInt 8388608) biased fraction)
      = .ok (.number (binary32.compose negative (size / 2 ^ 23) (size % 2 ^ 23))) := by
  have whole : (Number.ofInt size / .ofInt 8388608).floor = .ofInt (size / 2 ^ 23 : Nat) :=
    Number.floor_div_power size 23 (by omega) (by decide)
  have rest : (Number.ofInt size).mod (.ofInt 8388608) = .ofInt (size % 2 ^ 23 : Nat) :=
    Number.mod_int size 8388608 (by decide) (by decide)
  rw [value_int, value_div, ok_bind, value_floor, whole, ok_bind, value_mod, rest, ok_bind]
  exact assemble_compose narrow32 (Nat.mod_lt _ (by decide)) negative (by change _ < 2 ^ 8; omega)

lemma of_bits32_decode {x : Int} (word : Nat) (reads : x % 2 ^ 32 = word) :
    ofBits32 (Value.number .negZero) (.number (.ofInt x)) = .ok (.number (binary32.decode word)) := by
  have inside : word < 2 ^ 32 := by omega
  rw [ofBits32, I32.unsigned, value_two, value_mod, Number.mod_int _ _ (by decide) (by decide), reads,
    ok_bind, value_two, value_le, Number.le_int, ok_bind, decode32]
  by_cases high : (2 ^ 31 : Int) ≤ word
  · obtain ⟨size, rfl⟩ : ∃ size, word = size + 2 ^ 31 := ⟨word - 2 ^ 31, by omega⟩
    have sign : ((size + 2 ^ 31) / 2 ^ 31 % 2 == 1) = true := by
      rw [beq_iff_eq]
      omega
    have less : ((size + 2 ^ 31 : Nat) : Int) - 2 ^ 31 = size := by omega
    rw [sign, decide_eq_true high, if_pos rfl, value_sub, Number.sub_int (by omega), less, ok_bind,
      show (size + 2 ^ 31) / 2 ^ 23 % 2 ^ 8 = size / 2 ^ 23 by omega,
      show (size + 2 ^ 31) % 2 ^ 23 = size % 2 ^ 23 by omega]
    exact parts32 true size (by omega)
  · have sign : (word / 2 ^ 31 % 2 == 1) = false := by
      rw [beq_eq_false_iff_ne]
      omega
    rw [sign, decide_eq_false high, if_neg Bool.false_ne_true, ok_bind, show word / 2 ^ 23 % 2 ^ 8 = word / 2 ^ 23 by omega]
    exact parts32 false word (by omega)

lemma parts64 (negative : Bool) {low size : Nat} (lower : low < 2 ^ 32) (inside : size < 2 ^ 31) : (do
      let biased ← floor (← div (Value.number (.ofInt size)) (ofInt 1048576))
      let fraction ← add (← mul (← mod (Value.number (.ofInt size)) (ofInt 1048576)) (two 32)) (Value.number (.ofInt low))
      assemble (Value.number .negZero) negative 2047 (-1074) (two 52) biased fraction)
      = .ok (.number (binary64.compose negative (size / 2 ^ 20) (size % 2 ^ 20 * 2 ^ 32 + low))) := by
  have whole : (Number.ofInt size / .ofInt 1048576).floor = .ofInt (size / 2 ^ 20 : Nat) :=
    Number.floor_div_power size 20 (by omega) (by decide)
  have rest : (Number.ofInt size).mod (.ofInt 1048576) = .ofInt (size % 2 ^ 20 : Nat) :=
    Number.mod_int size 1048576 (by decide) (by decide)
  have fraction : ((size % 2 ^ 20 : Nat) : Int) * 2 ^ 32 + low = (size % 2 ^ 20 * 2 ^ 32 + low : Nat) := by push_cast; rfl
  rw [value_int, value_div, ok_bind, value_floor, whole, ok_bind, value_mod, rest, ok_bind, value_two,
    value_mul, Number.mul_int (by omega), ok_bind, value_add, Number.add_int _ (by omega), fraction, ok_bind, value_two]
  exact assemble_compose narrow64 (by change _ < 2 ^ 52; omega) negative (by change _ < 2 ^ 11; omega)

variable {word : Made}

lemma low_made {low high : Value} (halves : word.halves = .ok (low, high)) : Pairing.low word = .ok low := by
  change Prod.fst <$> word.halves = _
  rw [halves, ok_map]

lemma high_made {low high : Value} (halves : word.halves = .ok (low, high)) : Pairing.high word = .ok high := by
  change Prod.snd <$> word.halves = _
  rw [halves, ok_map]

lemma of_bits64_decode {low high : Nat} (lower : low < 2 ^ 32) (upper : high < 2 ^ 32)
    (halves : word.halves = .ok (.number (.ofInt low), .number (.ofInt high))) : ofBits64 (Value.number .negZero) word
      = .ok (.number (binary64.decode (high * 2 ^ 32 + low))) := by
  rw [ofBits64, low_made halves, ok_bind, high_made halves, ok_bind, value_two, value_le, Number.le_int, ok_bind, decode64]
  by_cases sign : (2 ^ 31 : Int) ≤ high
  · obtain ⟨size, rfl⟩ : ∃ size, high = size + 2 ^ 31 := ⟨high - 2 ^ 31, by omega⟩
    have bit : (((size + 2 ^ 31) * 2 ^ 32 + low) / 2 ^ 63 % 2 == 1) = true := by
      rw [beq_iff_eq]
      omega
    have less : ((size + 2 ^ 31 : Nat) : Int) - 2 ^ 31 = size := by omega
    rw [bit, decide_eq_true sign, if_pos rfl, value_sub, Number.sub_int (by omega), less, ok_bind,
      show ((size + 2 ^ 31) * 2 ^ 32 + low) / 2 ^ 52 % 2 ^ 11 = size / 2 ^ 20 by omega,
      show ((size + 2 ^ 31) * 2 ^ 32 + low) % 2 ^ 52 = size % 2 ^ 20 * 2 ^ 32 + low by omega]
    exact parts64 true lower (by omega)
  · have bit : ((high * 2 ^ 32 + low) / 2 ^ 63 % 2 == 1) = false := by
      rw [beq_eq_false_iff_ne]
      omega
    rw [bit, decide_eq_false sign, if_neg Bool.false_ne_true, ok_bind,
      show (high * 2 ^ 32 + low) / 2 ^ 52 % 2 ^ 11 = high / 2 ^ 20 by omega,
      show (high * 2 ^ 32 + low) % 2 ^ 52 = high % 2 ^ 20 * 2 ^ 32 + low by omega]
    exact parts64 false lower (by omega)

section Normal

variable {format : Format} {field fraction : Nat} (narrow : format.Narrow) (cut : fraction < 2 ^ format.fractionBits) (normal : field ≠ 0)

include cut normal in
lemma frexp_magnitude : Number.frexp (.finite (format.magnitude field fraction))
      = (.finite ((format.significand field fraction : Int) * 2 ^ (-((format.fractionBits + 1 : Nat) : Int))),
          format.fractionBits + 1 + format.scale field) := by
  have nonzero : format.magnitude field fraction ≠ 0 := by
    rw [Ne, magnitude_zero]
    exact fun zero => normal zero.1
  have exponent := exponent_normal cut normal
  have scaled : format.magnitude field fraction * 2 ^ (-(format.fractionBits + format.scale field + 1 : Int))
      = (format.significand field fraction : Int) * 2 ^ (-((format.fractionBits + 1 : Nat) : Int)) := by
    rw [magnitude, mul_assoc, ← power_add]
    push_cast
    congr 2
    ring
  rw [Number.frexp, if_neg (by simpa using nonzero)]
  simp only [exponent, pow2_eq, scaled]
  rw [add_right_comm]

include narrow cut normal in
lemma fraction_of_significand (weight : Int) (power : weight = (2 ^ format.fractionBits : Nat)) :
    fractionOf (.finite ((format.significand field fraction : Int) * 2 ^ (-((format.fractionBits + 1 : Nat) : Int))))
      (Value.number (.ofInt weight)) = .ok (.number (.ofInt fraction)) := by
  have fits := @significand_lt format field fraction narrow cut
  have places := narrow.leading
  have leading : (format.significand field fraction : Rat) = 2 ^ format.fractionBits + fraction := by
    rw [significand, if_neg normal]
    push_cast
    ring
  have inverse : (2 : Rat) ^ format.fractionBits * 2 ^ (-(format.fractionBits : Int)) = 1 := by
    rw [← zpow_natCast, ← power_add, add_neg_cancel, zpow_zero]
  have doubled : (format.significand field fraction : Int) * (2 : Rat) ^ (-((format.fractionBits + 1 : Nat) : Int))
      * ((2 : Int) : Rat) = ((format.significand field fraction : Int) : Rat) * 2 ^ (-(format.fractionBits : Int)) := by
    have half : (2 : Rat) ^ (-(format.fractionBits : Int)) = 2 ^ (-((format.fractionBits + 1 : Nat) : Int)) * 2 := by
      rw [show -(format.fractionBits : Int) = -((format.fractionBits + 1 : Nat) : Int) + 1 by
        push_cast; ring, power_add, zpow_one]
    rw [half, mul_assoc, Int.cast_ofNat]
  have less : ((format.significand field fraction : Int) : Rat) * 2 ^ (-(format.fractionBits : Int)) - ((1 : Int) : Rat)
      = ((fraction : Int) : Rat) * 2 ^ (-(format.fractionBits : Int)) := by
    push_cast
    rw [leading, add_mul, inverse]
    ring
  have whole : ((fraction : Int) : Rat) * 2 ^ (-(format.fractionBits : Int)) * ((2 ^ format.fractionBits : Nat) : Int)
      = ((fraction : Int) : Rat) := by
    push_cast
    rw [mul_assoc, mul_comm ((2 : Rat) ^ _), inverse, mul_one]
  have small : fraction < 2 ^ 53 := by
    have : 2 ^ format.fractionBits ≤ 2 ^ 53 := Nat.pow_le_pow_right (by decide) (by omega)
    omega
  rw [fractionOf, power]
  change (do Numeric.mul (← Numeric.sub (← Numeric.mul (Value.number (.finite _)) (.number (.ofInt 2))) (.number (.ofInt 1))) _) = _
  rw [value_mul, Number.ofInt, Number.mul_finite, doubled, Number.round_fraction (by omega) (by omega),
    ok_bind, value_sub, Number.ofInt, Number.sub_finite, less,
    Number.round_fraction (by omega) (by omega), ok_bind, value_mul, Number.ofInt, Number.mul_finite, whole, Number.round_int _ (by omega)]

end Normal

section Subnormal

variable {format : Format} {fraction : Nat} (cut : fraction < 2 ^ format.fractionBits)

include cut in
lemma frexp_subnormal (nonzero : fraction ≠ 0) :
    ∃ significand exponent, Number.frexp (.finite (format.magnitude 0 fraction)) = (significand, exponent)
      ∧ exponent ≤ format.fractionBits + format.minExponent := by
  have bound := exponent_subnormal cut nonzero
  have size : ¬ ((format.magnitude 0 fraction).num == 0) = true := by
    rw [beq_iff_eq, Rat.num_eq_zero, magnitude_zero]
    exact fun zero => nonzero zero.2
  rw [Number.frexp, if_neg size]
  exact ⟨_, _, rfl, bound⟩

include cut in
lemma ldexp_subnormal (narrow : format.Narrow) :
    Number.ldexp (.finite (format.magnitude 0 fraction)) (-format.minExponent) = .ofInt fraction := by
  have scaled : format.magnitude 0 fraction * 2 ^ (-format.minExponent) = ((fraction : Int) : Rat) := by
    have unit : format.scale 0 = format.minExponent := by simp [scale]
    rw [magnitude, significand, if_pos rfl, unit, mul_assoc, ← power_add, add_neg_cancel, zpow_zero, mul_one, Int.cast_natCast]
  have small : fraction < 2 ^ 53 := by
    have : 2 ^ format.fractionBits ≤ 2 ^ 53 := Nat.pow_le_pow_right (by decide) (by have := narrow.leading; omega)
    omega
  have rounded : binary64.round ((fraction : Int) : Rat) = .finite ((fraction : Int) : Rat) :=
    Number.round_int fraction (by omega)
  have unsigned : ¬ (format.magnitude 0 fraction).num < 0 := by
    rw [Rat.num_neg]
    exact not_lt.mpr (magnitude_nonneg format 0 fraction)
  simp only [Number.ldexp, pow2_eq, scaled, Number.roundSigned, rounded, decide_eq_false unsigned, Bool.and_false]
  rfl

end Subnormal

variable {x : Number} {field fraction word : Nat}

lemma value_finite_zero {value : Rat} : isZero (Value.number (.finite value)) = decide (value = 0) := by
  rw [isZero, value_int, value_eq]
  simp [Number.eq, Number.ofInt, Number.rational, beq_eq_decide]

lemma sign_and_size (known : x ≠ .nan) : signAndSize (Value.number x)
      = .ok (.number (.ofInt (if x.isNegative then 2 ^ 31 else 0)), .number x.abs) := by
  cases x with
  | nan => exact absurd rfl known
  | infinity negative => cases negative <;> rfl
  | negZero => rfl
  | finite value =>
    have below : (Number.finite value).lt (.ofInt 0) = decide (value.num < 0) := by
      refine decide_eq_decide.mpr ?_
      rw [Rat.num_neg]
      simp [Number.ofInt, Number.rational]
    rw [signAndSize, signbit, Floating.zero, value_int, value_lt, below, ok_bind, value_finite_zero]
    simp only [Number.isNegative, Number.abs, decide_eq_true_eq]
    by_cases sign : value.num < 0
    · rw [if_pos sign, if_pos sign, if_pos sign]
      rfl
    · rw [if_neg sign, if_neg sign, if_neg sign]
      by_cases none : value = 0
      · subst none
        rfl
      · rw [if_neg none]
        rfl

lemma number_known (known : x ≠ .nan) : isNaN (Value.number x) = false := by
  change (!x.eq x) = false
  cases x with
  | nan => exact absurd rfl known
  | infinity negative | finite value => simp [Number.eq]
  | negZero => rfl

lemma size_bits32 (inside : field < 2 ^ 8) (cut : fraction < 2 ^ 23) (known : binary32.compose false field fraction ≠ .nan) :
    sizeBits32 (Value.number (binary32.compose false field fraction))
      = .ok (.number (.ofInt (field * 2 ^ 23 + fraction : Nat))) := by
  rw [Ne, compose_nan] at known
  change ¬ (field = 255 ∧ fraction ≠ 0) at known
  by_cases top : field = 255
  · obtain rfl : fraction = 0 := by omega
    subst top
    rfl
  · rw [sizeBits32, compose_positive top, value_finite_zero]
    change (if false = true then _ else _) = _
    rw [if_neg Bool.false_ne_true]
    by_cases zero : field = 0 ∧ fraction = 0
    · obtain ⟨rfl, rfl⟩ := zero
      rw [decide_eq_true ((magnitude_zero _ _ _).mpr ⟨rfl, rfl⟩), if_pos rfl]
      rfl
    · rw [decide_eq_false (mt (magnitude_zero _ _ _).mp zero), if_neg Bool.false_ne_true, value_frexp, ok_bind]
      by_cases subnormal : field = 0
      · subst subnormal
        obtain ⟨significand, exponent, parts, bound⟩ := @frexp_subnormal .binary32 _ cut (by simpa using zero)
        have least : exponent + 126 ≤ 0 := by
          change exponent ≤ 23 + (-149) at bound
          omega
        have bits : Number.ldexp (.finite (binary32.magnitude 0 fraction)) 149 = .ofInt fraction :=
          @ldexp_subnormal .binary32 _ cut narrow32
        rw [parts]
        simp only
        rw [if_pos least, value_ldexp, bits, ok_bind, Nat.zero_mul, Nat.zero_add]
        rfl
      · have biased : (binary32.fractionBits : Int) + 1 + binary32.scale field + 126 = field := by
          change (23 : Int) + 1 + (max (field : Int) 1 - 1 + (-149)) + 126 = field
          omega
        have bits := fraction_of_significand narrow32 cut subnormal 8388608 rfl
        rw [@frexp_magnitude .binary32 _ _ cut subnormal]
        simp only [biased]
        rw [if_neg (by omega), value_int, value_int, value_mul, Number.mul_int (by omega), ok_bind,
          bits, ok_bind, value_add, Number.add_int _ (by omega)]
        rfl

lemma bits32_compose {negative : Bool} (inside : field < 2 ^ 8) (cut : fraction < 2 ^ 23)
    (known : binary32.compose negative field fraction ≠ .nan) : bits32 (Value.number (binary32.compose negative field fraction))
      = .ok (.number (.ofInt (((if negative then 2 ^ 31 else 0) + (field * 2 ^ 23 + fraction : Nat) : Int).bmod (2 ^ 32)))) := by
  obtain ⟨sign, size⟩ := compose_sign known
  have unsigned : binary32.compose false field fraction ≠ .nan := by
    rwa [Ne, compose_nan, ← compose_nan binary32 negative]
  rw [bits32, number_known known, if_neg Bool.false_ne_true, sign_and_size known, ok_bind, sign, size]
  simp only
  rw [size_bits32 inside cut unsigned, ok_bind, value_add, Number.add_int _ (by split <;> omega), ok_bind, wrap_value]

lemma bits32_decode (inside : word < 2 ^ 32) : bits32 (Value.number (binary32.decode word))
      = .ok (.number (.ofInt ((binary32.canonical word : Int).bmod (2 ^ 32)))) := by
  by_cases nan : binary32.decode word = .nan
  · have pattern : binary32.encode .nan = 2143289344 := by decide
    have kept : ((2143289344 : Nat) : Int).bmod (2 ^ 32) = 2143289344 := by decide
    rw [canonical, if_pos nan, nan, pattern, kept]
    rfl
  · rw [canonical, if_neg nan]
    rw [decode32] at nan ⊢
    rw [bits32_compose (Nat.mod_lt _ (by decide)) (Nat.mod_lt _ (by decide)) nan]
    congr 4
    simp only [beq_iff_eq]
    split <;> omega

lemma halves64 {sign : Int} {field fraction : Nat} (bit : 0 ≤ sign ∧ sign ≤ 2 ^ 31)
    (inside : field < 2 ^ 11) (cut : fraction < 2 ^ 52) :
    (do
      let upper ← floor (← div (Value.number (.ofInt fraction)) (two 32))
      return Pairing.pack (← sub (Value.number (.ofInt fraction)) (← mul upper (two 32)))
        (← add (← add (← mul (ofInt field) (ofInt 1048576)) upper) (Value.number (.ofInt sign))))
      = .ok (Made.fresh (.number (.ofInt (fraction % 2 ^ 32 : Nat))) (.number (.ofInt (field * 2 ^ 20 + fraction / 2 ^ 32 + sign)))) := by
  have whole : (Number.ofInt fraction / .ofInt (2 ^ 32)).floor = .ofInt (fraction / 2 ^ 32 : Nat) :=
    Number.floor_div_power fraction 32 (by omega) (by decide)
  have low : (fraction : Int) - (fraction / 2 ^ 32 : Nat) * 2 ^ 32 = (fraction % 2 ^ 32 : Nat) := by omega
  rw [value_two, value_div, ok_bind, value_floor, whole, ok_bind, value_mul,
    Number.mul_int (by omega), ok_bind, value_sub, Number.sub_int (by omega), low, ok_bind,
    value_int, value_int, value_mul, Number.mul_int (by omega), ok_bind, value_add,
    Number.add_int _ (by omega), ok_bind, value_add, Number.add_int _ (by omega), ok_bind]
  rfl

lemma size_bits64 (sign : Int) (field fraction : Nat) (bit : 0 ≤ sign ∧ sign ≤ 2 ^ 31)
    (inside : field < 2 ^ 11) (cut : fraction < 2 ^ 52) (known : binary64.compose false field fraction ≠ .nan) :
    sizeBits64 (Value.number (.ofInt sign)) (.number (binary64.compose false field fraction))
      = .ok (Made.fresh (.number (.ofInt (fraction % 2 ^ 32 : Nat))) (.number (.ofInt (field * 2 ^ 20 + fraction / 2 ^ 32 + sign)))) := by
  rw [Ne, compose_nan] at known
  change ¬ (field = 2047 ∧ fraction ≠ 0) at known
  by_cases top : field = 2047
  · obtain rfl : fraction = 0 := by omega
    subst top
    change (do return Pairing.pack _ (← add (Value.number (.ofInt 2146435072)) (Value.number (.ofInt sign)))) = _
    rw [value_add, Number.add_int _ (by omega)]
    rfl
  · rw [sizeBits64, compose_positive top, value_finite_zero]
    change (if false = true then _ else _) = _
    rw [if_neg Bool.false_ne_true]
    by_cases zero : field = 0 ∧ fraction = 0
    · obtain ⟨rfl, rfl⟩ := zero
      rw [decide_eq_true ((magnitude_zero _ _ _).mpr ⟨rfl, rfl⟩), if_pos rfl]
      simp
      rfl
    · rw [decide_eq_false (mt (magnitude_zero _ _ _).mp zero), if_neg Bool.false_ne_true, value_frexp, ok_bind]
      by_cases subnormal : field = 0
      · subst subnormal
        obtain ⟨significand, exponent, parts, bound⟩ := @frexp_subnormal .binary64 _ cut (by simpa using zero)
        have least : exponent + 1022 ≤ 0 := by
          change exponent ≤ 52 + (-1074) at bound
          omega
        have bits : Number.ldexp (.finite (binary64.magnitude 0 fraction)) 1074 = .ofInt fraction :=
          @ldexp_subnormal .binary64 _ cut narrow64
        rw [parts]
        simp only
        rw [if_pos least, if_pos least, value_ldexp, bits, ok_map, ok_bind]
        exact halves64 bit (by decide) cut
      · have biased : (binary64.fractionBits : Int) + 1 + binary64.scale field + 1022 = field := by
          change (52 : Int) + 1 + (max (field : Int) 1 - 1 + (-1074)) + 1022 = field
          omega
        have bits := fraction_of_significand narrow64 cut subnormal (2 ^ 52) rfl
        rw [@frexp_magnitude .binary64 _ _ cut subnormal]
        simp only [biased]
        rw [if_neg (by omega), if_neg (by omega), value_two, bits, ok_bind]
        exact halves64 bit inside cut

lemma bits64_decode (inside : word < 2 ^ 64) : bits64 (Value.number (binary64.decode word))
      = .ok (Made.fresh (.number (.ofInt (binary64.canonical word % 2 ^ 32 : Nat)))
          (.number (.ofInt (binary64.canonical word / 2 ^ 32 : Nat)))) := by
  by_cases nan : binary64.decode word = .nan
  · have pattern : binary64.encode .nan = 9221120237041090560 := by decide
    rw [canonical, if_pos nan, nan, pattern]
    rfl
  · rw [canonical, if_neg nan]
    rw [decode64] at nan ⊢
    obtain ⟨sign, size⟩ := compose_sign nan
    have unsigned : binary64.compose false (word / 2 ^ 52 % 2 ^ 11) (word % 2 ^ 52) ≠ .nan := by
      rwa [Ne, compose_nan, ← compose_nan binary64 (word / 2 ^ 63 % 2 == 1)]
    rw [bits64, number_known nan, if_neg Bool.false_ne_true, sign_and_size nan, ok_bind, sign, size]
    simp only
    rw [size_bits64 _ _ _ (by split <;> omega) (Nat.mod_lt _ (by decide)) (Nat.mod_lt _ (by decide)) unsigned]
    congr 4
    · omega
    · simp only [beq_iff_eq]
      split <;> omega

end Exec.Conversion

end WasmLua
