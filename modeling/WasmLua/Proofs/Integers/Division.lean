import WasmLua.Proofs.Integers.I64
import WasmLua.Proofs.Number.Patterns

/-!
Division of 64-bit integers. Numbers of at most 52 bits are divided at once, larger ones bit by bit;
only the first kind needs a quotient by another number than a power of two.
-/

namespace WasmLua.Exec

open BitVec (intMin)
open Numeric Pairing Except
open Conversion (low_made high_made)

instance : Keeping Value Made where
  low_pack := fun _ _ => rfl
  high_pack := fun _ _ => rfl

namespace I64

section Whole

variable {N P : Type} [Numeric N] [Pairing N P] {a b n q r count : Nat}

def pairNat (n : Nat) : Pair N := ⟨ofInt (n % 2 ^ 32 : Nat), ofInt (n / 2 ^ 32 : Nat)⟩

def packNat (n : Nat) : P := pack (ofInt (n % 2 ^ 32 : Nat) : N) (ofInt (n / 2 ^ 32 : Nat))

variable [Whole N]

lemma split_int (small : n < 2 ^ 53) : split (ofInt n : N) = .ok (packNat n : P) := by
  have whole : (n : Int) / 2 ^ 32 * 2 ^ 32 = (n / 2 ^ 32 * 2 ^ 32 : Nat) := by push_cast; rfl
  have rest : (n : Int) - (n / 2 ^ 32 * 2 ^ 32 : Nat) = (n % 2 ^ 32 : Nat) := by omega
  rw [split, whole_two, whole_shift _ (by decide) (by omega), Whole.mul (by omega), ok_bind, whole, Whole.sub (by omega), ok_bind, rest]
  rfl

omit [Whole N] in
lemma divide_small [Quotients N] (nonzero : b ≠ 0) (left : a < 2 ^ 52) (right : b < 2 ^ 52) :
    divideSmall (pairNat a) (pairNat b : Pair N) = .ok ⟨(packNat (a / b) : P), packNat (a % b)⟩ := by
  have joined {n : Nat} (small : n < 2 ^ 52) : ((n / 2 ^ 32 : Nat) : Int) * 2 ^ 32 + (n % 2 ^ 32 : Nat) = n := by omega
  have quotient := Nat.div_le_self a b
  have below := Nat.mod_lt a (Nat.pos_of_ne_zero nonzero)
  have product : ((a / b : Nat) : Int) * b = a - (a % b : Nat) := by
    rw [eq_sub_iff_add_eq]
    exact_mod_cast Nat.div_add_mod' a b
  simp (disch := omega) only [divideSmall, pairNat, whole_two, Whole.mul, Whole.add, ok_bind, joined left, joined right]
  rw [← bind_assoc, Quotients.floor_div (by omega) (by omega) (by omega) (by omega), ok_bind, ← Int.natCast_ediv]
  generalize a / b = whole at *
  generalize a % b = rest at *
  have left : (a : Int) - (whole * b) = rest := by omega
  have nonnegative : ¬ (rest : Int) < 0 := by omega
  have proper : ¬ (b : Int) ≤ rest := by omega
  simp (disch := omega) only [Whole.mul, Whole.sub, ok_bind, left, Whole.lt, Whole.le, nonnegative, proper,
    decide_false, Bool.false_eq_true, if_false, split_int]
  rfl

lemma bit_down (bit : Nat) (inside : bit < 64) (small : a < 2 ^ 64) : (do
      let quotient ← div (if decide (32 ≤ bit) then (pairNat a).high else (pairNat a).low) (two (bit % 32) : N)
      mod (← floor quotient) (ofInt 2)) = .ok (ofInt (a / 2 ^ bit % 2 : Nat) : N) := by
  have half : ∃ n : Nat, (if decide (32 ≤ bit) then (pairNat a).high else (pairNat a).low) = (ofInt n : N) ∧
      n < 2 ^ 32 ∧ n / 2 ^ (bit % 32) % 2 = a / 2 ^ bit % 2 := by
    by_cases upper : 32 ≤ bit
    · refine ⟨a / 2 ^ 32, by rw [decide_eq_true upper, if_pos rfl]; rfl, by omega, ?_⟩
      rw [Nat.div_div_eq_div_mul, ← pow_add, show 32 + bit % 32 = bit by omega]
    · refine ⟨a % 2 ^ 32, by rw [decide_eq_false upper, if_neg Bool.false_ne_true]; rfl, by omega, ?_⟩
      rw [Nat.mod_eq_of_lt (not_le.mp upper)]
      have same := Nat.testBit_mod_two_pow a 32 bit
      rw [decide_eq_true (not_le.mp upper), Bool.true_and, Nat.testBit_eq_decide_div_mod_eq,
        Nat.testBit_eq_decide_div_mod_eq, decide_eq_decide] at same
      omega
  obtain ⟨n, read, below, same⟩ := half
  have halved : ((n : Int) / 2 ^ (bit % 32)) % 2 = (a / 2 ^ bit % 2 : Nat) := by
    rw [← same]
    push_cast
    rfl
  rw [read, whole_two, whole_shift _ (by omega) (by omega), Whole.mod (by decide) (by decide), halved]

lemma fits_nat (lost : Bool) : fits lost (pairNat b : Pair N) (pairNat n) = .ok (lost || decide (b ≤ n)) := by
  cases lost with
  | true => rfl
  | false =>
    simp only [fits, pairNat, Whole.lt, Whole.eq, Whole.le, ok_bind, decide_eq_true_eq, Bool.false_or, Bool.false_eq_true, if_false]
    split
    · exact congrArg ok (decide_eq_true (by omega)).symm
    · split
      · exact congrArg ok (decide_eq_decide.mpr (by omega))
      · exact congrArg ok (decide_eq_false (by omega)).symm

omit [Whole N] in
lemma pair_nat {x y : Int} (low : x = (n % 2 ^ 32 : Nat)) (high : y = (n / 2 ^ 32 : Nat)) :
    (⟨ofInt x, ofInt y⟩ : Pair N) = pairNat n := by
  rw [low, high]
  rfl

lemma take_off (left : n < 2 ^ 64) (right : b < 2 ^ 64) :
    takeOff (pairNat b : Pair N) (pairNat n) = .ok (pairNat ((n + (2 ^ 64 - b)) % 2 ^ 64)) := by
  simp (disch := omega) only [takeOff, pairNat, whole_two, Whole.sub, ok_bind, Whole.lt, decide_eq_true_eq]
  split
  · rw [Whole.add (by omega), ok_bind, Whole.mod (by decide) (by decide), ok_bind]
    exact congrArg ok (pair_nat (by omega) (by omega))
  · rw [Whole.mod (by decide) (by decide), ok_bind]
    exact congrArg ok (pair_nat (by omega) (by omega))

lemma free_place (bit : Nat) (inside : bit < 32) (even : 2 ^ (bit + 1) ∣ q) : q % 2 ^ 32 + 2 ^ bit < 2 ^ 32 := by
  have split : 2 ^ (31 - bit) * 2 ^ (bit + 1) = 2 ^ 32 := by
    rw [← pow_add]
    congr 1
    omega
  obtain ⟨digit, whole⟩ := (Nat.dvd_mod_iff (Dvd.intro_left _ split)).mpr even
  have below : digit < 2 ^ (31 - bit) := by
    rw [← Nat.mul_lt_mul_left (show 0 < 2 ^ (bit + 1) by positivity), ← whole, mul_comm, split]
    exact Nat.mod_lt _ (by decide)
  have room := scaled_digit digit split below
  have positive : 0 < 2 ^ bit := by positivity
  rw [mul_comm, ← whole, pow_succ] at room
  omega

lemma set_bit (bit : Nat) (inside : bit < 64) (small : q < 2 ^ 64) (even : 2 ^ (bit + 1) ∣ q) {rest : Pair N} :
    (if decide (32 ≤ bit) then do
        return ⟨⟨(pairNat q).low, ← Numeric.add (pairNat q).high (two (bit % 32))⟩, rest⟩
      else do return ⟨⟨← Numeric.add (pairNat q).low (two (bit % 32)), (pairNat q).high⟩, rest⟩)
      = (.ok ⟨pairNat (q + 2 ^ bit), rest⟩ : Except Fault (Division (Pair N))) := by
  have weight : (2 : Int) ^ (bit % 32) < 2 ^ 32 := pow_lt_pow_right₀ (by decide) (Nat.mod_lt _ (by decide))
  have paired {quotient : Pair N} {n : Nat} (same : quotient = pairNat n) :
      (ok ⟨quotient, rest⟩ : Except Fault (Division (Pair N))) = .ok ⟨pairNat n, rest⟩ := by
    rw [same]
  have positive : (0 : Int) < 2 ^ (bit % 32) := by positivity
  simp only [pairNat, whole_two, decide_eq_true_eq]
  split
  · have place : (2 : Int) ^ bit = 2 ^ 32 * 2 ^ (bit % 32) := by
      rw [← pow_add]
      congr 1
      omega
    rw [Whole.add (by omega), ok_bind]
    exact paired (pair_nat (by push_cast; omega) (by push_cast; omega))
  · rename_i lower
    have free := free_place bit (not_le.mp lower) even
    have place : (2 : Int) ^ (bit % 32) = (2 ^ bit : Nat) := by
      rw [Nat.mod_eq_of_lt (not_le.mp lower)]
      push_cast
      rfl
    rw [Whole.add (by omega), ok_bind, place]
    exact paired (pair_nat (by omega) (by omega))

lemma divide_step (bit : Nat) (inside : bit < 64) (left : a < 2 ^ 64) (right : b < 2 ^ 64)
    (below : r < b) (small : q < 2 ^ 64) (even : 2 ^ (bit + 1) ∣ q) :
    divideStep (pairNat a : Pair N) (pairNat b) bit ⟨pairNat q, pairNat r⟩
      = .ok (if b ≤ 2 * r + a / 2 ^ bit % 2 then ⟨pairNat (q + 2 ^ bit), pairNat (2 * r + a / 2 ^ bit % 2 - b)⟩
        else ⟨pairNat q, pairNat (2 * r + a / 2 ^ bit % 2)⟩) := by
  have digit := Nat.mod_lt (a / 2 ^ bit) (show 0 < 2 by decide)
  have down := bit_down (N := N) bit inside left
  rw [← bind_assoc] at down
  simp only [divideStep]
  rw [← bind_assoc, ← bind_assoc, down, ok_bind]
  generalize a / 2 ^ bit % 2 = d at *
  have shifted : (⟨ofInt ((r % 2 ^ 32 : Nat) * 2 % 2 ^ 32 + d), ofInt ((r / 2 ^ 32 : Nat) * 2 % 2 ^ 32
      + (r % 2 ^ 32 : Nat) / 2 ^ 31)⟩ : Pair N) = pairNat ((2 * r + d) % 2 ^ 64) :=
    pair_nat (by omega) (by omega)
  have reads : (pairNat r : Pair N) = ⟨ofInt (r % 2 ^ 32 : Nat), ofInt (r / 2 ^ 32 : Nat)⟩ := rfl
  rw [reads]
  simp only [whole_two]
  rw [Whole.le, ok_bind, Whole.mul (by omega), ok_bind, Whole.mod (by decide) (by decide), ok_bind,
    whole_shift _ (by decide) (by omega), Whole.add (by omega), ok_bind, Whole.mul (by omega), ok_bind,
    Whole.mod (by decide) (by decide), ok_bind, Whole.add (by omega), ok_bind, shifted, fits_nat, ok_bind, ← Bool.decide_or]
  by_cases holds : b ≤ 2 * r + d
  · have less : ((2 * r + d) % 2 ^ 64 + (2 ^ 64 - b)) % 2 ^ 64 = 2 * r + d - b := by omega
    rw [if_pos (decide_eq_true (by omega)), if_pos holds, take_off (by omega) right, ok_bind, less]
    exact set_bit bit inside small even
  · rw [if_neg (by rw [decide_eq_true_eq]; omega), if_neg holds, Nat.mod_eq_of_lt (by omega)]
    rfl

lemma divide_from (left : a < 2 ^ 64) (right : b < 2 ^ 64) (inside : count ≤ 64) (below : r < b)
    (divided : a / 2 ^ count = q * b + r) : divideFrom (pairNat a : Pair N) (pairNat b) count ⟨pairNat (q * 2 ^ count), pairNat r⟩
      = .ok ⟨pairNat (a / b), pairNat (a % b)⟩ := by
  -- The loop, with the invariant that the bits that have come down are divided.
  induction count generalizing q r with
  | zero =>
    rw [pow_zero, Nat.div_one] at divided
    obtain ⟨quotient, rest⟩ : a / b = q ∧ a % b = r :=
      (Nat.div_mod_unique (by omega)).mpr ⟨by rw [divided, mul_comm, add_comm], below⟩
    rw [pow_zero, mul_one, divideFrom, quotient, rest]
  | succ count ih =>
    have small : q * 2 ^ (count + 1) < 2 ^ 64 := by
      have fewer : q ≤ a / 2 ^ (count + 1) := divided ▸ Nat.le_add_right_of_le (Nat.le_mul_of_pos_right q (by omega))
      exact (Nat.le_div_iff_mul_le (by positivity)).mp fewer |>.trans_lt left
    have next : a / 2 ^ count = 2 * (a / 2 ^ (count + 1)) + a / 2 ^ count % 2 := by
      rw [pow_succ, ← Nat.div_div_eq_div_mul, Nat.div_add_mod]
    have digit := Nat.mod_lt (a / 2 ^ count) (show 0 < 2 by decide)
    rw [divided] at next
    rw [divideFrom, divide_step count (by omega) left right below small (Nat.dvd_mul_left _ _), ok_bind]
    generalize a / 2 ^ count % 2 = d at *
    split
    · rw [show q * 2 ^ (count + 1) + 2 ^ count = (2 * q + 1) * 2 ^ count by ring]
      refine ih (by omega) (by omega) (next.trans ?_)
      rw [add_mul, mul_assoc]
      omega
    · rw [show q * 2 ^ (count + 1) = 2 * q * 2 ^ count by ring]
      refine ih (by omega) (by omega) (next.trans ?_)
      rw [mul_assoc]
      omega

lemma divide_long (nonzero : b ≠ 0) (left : a < 2 ^ 64) (right : b < 2 ^ 64) :
    divideLong (pairNat a) (pairNat b : Pair N) = .ok ⟨(packNat (a / b) : P), packNat (a % b)⟩ := by
  have found := divide_from (N := N) (q := 0) left right (le_refl 64) (Nat.pos_of_ne_zero nonzero)
    (by rw [Nat.div_eq_of_lt left, zero_mul])
  rw [zero_mul] at found
  have start : (⟨ofInt 0, ofInt 0⟩ : Pair N) = pairNat 0 := rfl
  rw [divideLong, start, found]
  rfl

def Answers (result : Except Fault P) : Except Trap (BitVec 64) → Prop
  | .ok word => Yields result word
  | .error trap => result = .error (.trap trap)

section Words

variable {zero p q : P} {x y : BitVec 64}

lemma is_negative_word (first : Splits p x) : isNegative p = .ok x.msb := by
  have parts := half_parts x
  rw [isNegative, first.2, ok_bind, whole_two, Whole.le, BitVec.msb_eq_decide]
  exact congrArg ok (decide_eq_decide.mpr (by omega))

lemma divide_word (quick : highHalf x < 2 ^ 20 → highHalf y < 2 ^ 20 → Quotients N) (nonzero : y ≠ 0)
    (first : Splits p x) (second : Splits q y) : divide p q = .ok ⟨packNat (x.udiv y).toNat, packNat (x.umod y).toNat⟩ := by
  have left := half_parts x
  have right := half_parts y
  have divisor : y.toNat ≠ 0 := fun none => nonzero (BitVec.eq_of_toNat_eq none)
  have quotient : (x.udiv y).toNat = x.toNat / y.toNat := BitVec.toNat_udiv
  have rest : (x.umod y).toNat = x.toNat % y.toNat := BitVec.toNat_umod
  have long := divide_long (N := N) (P := P) divisor x.isLt y.isLt
  rw [divide, first.1, ok_bind, first.2, ok_bind, second.1, ok_bind, second.2, ok_bind, quotient, rest]
  simp only [isSmall, Whole.lt, ok_bind, decide_eq_true_eq]
  split
  · split
    · have := quick (by omega) (by omega)
      exact divide_small divisor (by omega) (by omega)
    · exact long
  · exact long

lemma overflows_word (first : Splits p x) (second : Splits q y) : overflows p q = .ok (decide (x = intMin 64 ∧ y = -1)) := by
  have parts : lowHalf (intMin 64) = 0 ∧ highHalf (intMin 64) = 2 ^ 31 ∧
      lowHalf (-1) = 2 ^ 32 - 1 ∧ highHalf (-1) = 2 ^ 32 - 1 := by decide
  have same : decide (x = intMin 64 ∧ y = -1) = (decide ((lowHalf x : Int) = 0) && decide ((highHalf x : Int) = 2 ^ 31) &&
        decide ((lowHalf y : Int) = 2 ^ 32 - 1) && decide ((highHalf y : Int) = 2 ^ 32 - 1)) := by
    rw [← Bool.decide_and, ← Bool.decide_and, ← Bool.decide_and, decide_eq_decide, halves_eq x,
      halves_eq y, parts.1, parts.2.1, parts.2.2.1, parts.2.2.2]
    omega
  rw [overflows, first.1, ok_bind, first.2, ok_bind, second.1, ok_bind, second.2, ok_bind, same]
  simp only [whole_zero, whole_two, Whole.eq, ok_bind, Whole.sub (show ((2 : Int) ^ 32 - 1).natAbs ≤ 2 ^ 53 by decide)]
  cases decide ((lowHalf x : Int) = 0) <;> cases decide ((highHalf x : Int) = 2 ^ 31) <;>
    cases decide ((lowHalf y : Int) = 2 ^ 32 - 1) <;> rfl

lemma nonzero_answers {quotient : Except Fault P} {word : Except Trap (BitVec 64)} (second : Splits q y)
    (answers : y ≠ 0 → Answers quotient word) :
    Answers (do if ← isZero q then .error (.trap .integerDivideByZero) else quotient)
      (if y = 0 then .error .integerDivideByZero else word) := by
  rw [exact_is_zero second, ok_bind]
  by_cases none : y = 0
  · rw [if_pos none, if_pos (decide_eq_true none)]
    rfl
  · rw [if_neg none, if_neg (by simpa using none)]
    exact answers none

variable [Keeping N P]

omit [Whole N] in
lemma pack_nat (word : BitVec 64) : Splits (packNat word.toNat : P) word := ⟨Keeping.low_pack .., Keeping.high_pack ..⟩

lemma magnitude_word (nothing : Splits zero 0) (negative : Bool) (first : Splits p x) :
    Yields (magnitude zero negative p) (if negative then -x else x) := by
  cases negative with
  | false => exact ⟨p, rfl, first⟩
  | true =>
    have negated := exact_difference nothing first
    rwa [show 0 - x = -x from BitVec.zero_sub x] at negated

variable (nothing : Splits zero 0) (first : Splits p x) (second : Splits q y) include first second

omit [Whole N]

variable [Quotients N]

include nothing in
lemma divide_magnitudes (nonzero : y ≠ 0) : ∃ size size', magnitude zero x.msb p = .ok size ∧ magnitude zero y.msb q = .ok size' ∧
      divide size size' = .ok ⟨packNat (x.abs.udiv y.abs).toNat, packNat (x.abs.umod y.abs).toNat⟩ := by
  obtain ⟨size, found, splits⟩ := magnitude_word nothing x.msb first
  obtain ⟨size', found', splits'⟩ := magnitude_word nothing y.msb second
  refine ⟨size, size', found, found', divide_word (fun _ _ => inferInstance) ?_ splits splits'⟩
  unfold BitVec.abs
  split
  · exact BitVec.neg_eq_zero_iff.not.mpr nonzero
  · exact nonzero

include nothing in
lemma division_word (sign : Wasm.Sign) : Answers (binary zero (.div sign) p q) (Wasm.Word.binary (.div sign) x y) := by
  cases sign with
  | unsigned =>
    refine nonzero_answers second fun nonzero => ⟨_, ?_, pack_nat _⟩
    rw [divide_word (fun _ _ => inferInstance) nonzero first second]
    rfl
  | signed =>
    refine nonzero_answers second fun nonzero => ?_
    rw [overflows_word first second, ok_bind]
    by_cases exceeds : x = intMin 64 ∧ y = -1
    · rw [if_pos exceeds, if_pos (decide_eq_true exceeds)]
      rfl
    obtain ⟨size, size', found, found', divided⟩ := divide_magnitudes nothing first second nonzero
    rw [if_neg exceeds, if_neg (by simpa using exceeds), is_negative_word first, ok_bind,
      is_negative_word second, ok_bind, found, ok_bind, found', ok_bind, divided, ok_bind]
    have signed : x.sdiv y = if x.msb != y.msb then -(x.abs.udiv y.abs) else x.abs.udiv y.abs := by
      unfold BitVec.sdiv BitVec.abs
      cases x.msb <;> cases y.msb <;> rfl
    rw [signed]
    exact magnitude_word nothing (x.msb != y.msb) (pack_nat _)

include nothing in
lemma remainder_word (sign : Wasm.Sign) : Answers (binary zero (.rem sign) p q) (Wasm.Word.binary (.rem sign) x y) := by
  cases sign with
  | unsigned =>
    refine nonzero_answers second fun nonzero => ⟨_, ?_, pack_nat _⟩
    rw [divide_word (fun _ _ => inferInstance) nonzero first second]
    rfl
  | signed =>
    refine nonzero_answers second fun nonzero => ?_
    obtain ⟨size, size', found, found', divided⟩ := divide_magnitudes nothing first second nonzero
    rw [is_negative_word first, ok_bind, found, ok_bind, is_negative_word second, ok_bind, found', ok_bind, divided, ok_bind]
    have signed : x.srem y = if x.msb then -(x.abs.umod y.abs) else x.abs.umod y.abs := by
      unfold BitVec.srem BitVec.abs
      cases x.msb <;> cases y.msb <;> rfl
    rw [signed]
    exact magnitude_word nothing x.msb (pack_nat _)

end Words

end Whole

def ofNat (n : Nat) : Pair Value := ⟨.ofInt (n % 2 ^ 32 : Nat), .ofInt (n / 2 ^ 32 : Nat)⟩

def madeOf (n : Nat) : Made := .fresh (.ofInt (n % 2 ^ 32 : Nat)) (.ofInt (n / 2 ^ 32 : Nat))

def Stands (made : Made) (word : BitVec 64) : Prop := made.halves = .ok (.ofInt (lowHalf word), .ofInt (highHalf word))

def Delivers (result : Except Fault Made) : Except Trap (BitVec 64) → Prop
  | .ok word => ∃ made, result = .ok made ∧ Stands made word
  | .error trap => result = .error (.trap trap)

lemma stands_iff {made : Made} {word : BitVec 64} : Stands made word ↔ Splits made word := by
  constructor
  · intro stands
    exact ⟨low_made stands, high_made stands⟩
  · rintro ⟨first, second⟩
    change Prod.fst <$> made.halves = _ at first
    change Prod.snd <$> made.halves = _ at second
    unfold Stands
    cases found : made.halves with
    | error fault =>
      rw [found] at first
      cases first
    | ok halves =>
      rw [found, ok_map, ok.injEq] at first second
      rw [← Prod.mk.eta (p := halves), first, second]
      rfl

variable {result : Except Fault Made}

lemma answers_deliver {word : Except Trap (BitVec 64)}
    (answers : Answers result word) : Delivers result word := by
  cases word with
  | error trap => exact answers
  | ok word =>
    obtain ⟨made, found, splits⟩ := answers
    exact ⟨made, found, stands_iff.mpr splits⟩

lemma delivers_trap {word : Except Trap (BitVec 64)} {trap : Trap}
    (delivers : Delivers result word) : result = .error (.trap trap) ↔ word = .error trap := by
  cases word with
  | ok word =>
    obtain ⟨made, rfl, -⟩ := delivers
    exact iff_of_false nofun nofun
  | error other =>
    cases delivers
    simp

lemma zero_divisor_traps (a b : BitVec 64) (sign : Wasm.Sign) :
    (Wasm.Word.binary (.div sign) a b = .error .integerDivideByZero ↔ b = 0) ∧
      (Wasm.Word.binary (.rem sign) a b = .error .integerDivideByZero ↔ b = 0) := by
  by_cases none : b = 0
  · cases sign <;> simp [Wasm.Word.binary, none]
  · refine ⟨iff_of_false ?_ none, iff_of_false ?_ none⟩
    · cases sign with
      | signed =>
        rw [Wasm.Word.binary, if_neg none]
        split <;> simp
      | unsigned =>
        rw [Wasm.Word.binary, if_neg none]
        simp
    · cases sign <;> rw [Wasm.Word.binary, if_neg none] <;> simp

lemma overflow_traps (a b : BitVec 64) :
    Wasm.Word.binary (.div .signed) a b = .error .integerOverflow ↔ a = intMin 64 ∧ b = -1 := by
  rw [Wasm.Word.binary]
  split
  · rename_i none
    exact iff_of_false (by simp) fun exceeds => absurd (none.symm.trans exceeds.2) (by decide)
  · split
    · rename_i exceeds
      exact iff_of_true rfl exceeds
    · rename_i inside
      exact iff_of_false (by simp) inside

/-- Division and remainder of 64-bit integers are those of words and trap where those do. -/
theorem long_division_exact {zero first second : Made} {a b : BitVec 64} (nothing : Stands zero 0)
    (left : Stands first a) (right : Stands second b) :
    (∀ sign, Delivers (binary zero (.div sign) first second) (Wasm.Word.binary (.div sign) a b) ∧
      Delivers (binary zero (.rem sign) first second) (Wasm.Word.binary (.rem sign) a b)) ∧
    (∀ sign, (binary zero (.div sign) first second = .error (.trap .integerDivideByZero) ↔ b = 0) ∧
      (binary zero (.rem sign) first second = .error (.trap .integerDivideByZero) ↔ b = 0)) ∧
    (binary zero (.div .signed) first second = .error (.trap .integerOverflow) ↔ a = intMin 64 ∧ b = -1) ∧
    (a = intMin 64 ∧ b = -1 → Delivers (binary zero (.rem .signed) first second) (.ok 0)) ∧
    ((a.srem b).toInt = a.toInt.tmod b.toInt ∧ (¬ (a = intMin 64 ∧ b = -1) → (a.sdiv b).toInt = a.toInt.tdiv b.toInt)) ∧
    (b ≠ 0 → ∃ q r : Nat, a.toNat = q * b.toNat + r ∧ r < b.toNat ∧
      (∀ q' r', a.toNat = q' * b.toNat + r' → r' < b.toNat → q' = q ∧ r' = r) ∧
      divideLong (ofNat a.toNat) (ofNat b.toNat) = .ok ⟨madeOf q, madeOf r⟩ ∧ (highHalf a < 2 ^ 20 → highHalf b < 2 ^ 20 →
        divideSmall (ofNat a.toNat) (ofNat b.toNat) = .ok ⟨madeOf q, madeOf r⟩)) := by
  have zero_splits := stands_iff.mp nothing
  have division sign := answers_deliver
    (division_word zero_splits (stands_iff.mp left) (stands_iff.mp right) sign)
  have remainder sign := answers_deliver
    (remainder_word zero_splits (stands_iff.mp left) (stands_iff.mp right) sign)
  refine ⟨fun sign => ⟨division sign, remainder sign⟩, fun sign => ?_, ?_, ?_, ?_, ?_⟩
  · rw [delivers_trap (division sign), delivers_trap (remainder sign)]
    exact zero_divisor_traps a b sign
  · rw [delivers_trap (division .signed)]
    exact overflow_traps a b
  · rintro ⟨rfl, rfl⟩
    exact remainder .signed
  · exact ⟨BitVec.toInt_srem a b, fun inside => BitVec.toInt_sdiv_of_ne_or_ne a b (not_and_or.mp inside)⟩
  · intro nonzero
    have left := half_parts a
    have right := half_parts b
    have divisor : b.toNat ≠ 0 := fun none => nonzero (BitVec.eq_of_toNat_eq none)
    refine ⟨a.toNat / b.toNat, a.toNat % b.toNat, (Nat.div_add_mod' _ _).symm, Nat.mod_lt _ (by omega),
      ?_, divide_long divisor a.isLt b.isLt, fun _ _ => divide_small divisor (by omega) (by omega)⟩
    intro q r whole below
    obtain ⟨quotient, rest⟩ : a.toNat / b.toNat = q ∧ a.toNat % b.toNat = r :=
      (Nat.div_mod_unique (by omega)).mpr ⟨by rw [whole, mul_comm, add_comm], below⟩
    exact ⟨quotient.symm, rest.symm⟩

def pairOf (id low high : Nat) : Made := .held (.pair id (.ofInt low) (.ofInt high))

/-- The least number divided by minus seven: both operands are negative, and the dividend needs long
division. -/
theorem least_by_minus_seven : Stands (pairOf 0 0 0) 0 ∧ Stands (pairOf 1 0 0x80000000) 0x8000000000000000 ∧
    Stands (pairOf 2 0xfffffff9 0xffffffff) (-7) ∧ Delivers (binary (pairOf 0 0 0) (.div .signed) (pairOf 1 0 0x80000000)
      (pairOf 2 0xfffffff9 0xffffffff)) (.ok 0x1249249249249249) := by
  have nothing : Stands (pairOf 0 0 0) 0 := rfl
  have left : Stands (pairOf 1 0 0x80000000) 0x8000000000000000 := rfl
  have right : Stands (pairOf 2 0xfffffff9 0xffffffff) (-7) := rfl
  have divided := ((long_division_exact nothing left right).1 .signed).1
  have quotient : Wasm.Word.binary (.div .signed) 0x8000000000000000 (-7 : BitVec 64)
      = .ok 0x1249249249249249 := by
    decide
  rw [quotient] at divided
  exact ⟨nothing, left, right, divided⟩

end I64
end WasmLua.Exec
