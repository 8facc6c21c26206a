import WasmLua.Exec.Value
import WasmLua.Proofs.Integers.Exact

/-!
The helpers are written for operands of any kind, so a map of operands that respects the primitive
operations respects every helper.
-/

namespace WasmLua.Exec

open Conversion I64 Floating FloatNumeric

/-- A map of operands that the primitive operations cannot tell from the identity. Constants are stated from
right to left, so that rewriting moves the map outwards only. -/
structure NumericMap (N M : Type) [FloatNumeric N] [FloatNumeric M] where
  map : N → M
  ofInt (value : Int) : (Numeric.ofInt value : M) = map (Numeric.ofInt value)
  ofNumber (value : Number) : (ofNumber value : M) = map (ofNumber value)
  toInt? (a : N) : Numeric.toInt? (map a) = Numeric.toInt? a
  eq (a b : N) : Numeric.eq (map a) (map b) = Numeric.eq a b
  lt (a b : N) : Numeric.lt (map a) (map b) = Numeric.lt a b
  le (a b : N) : Numeric.le (map a) (map b) = Numeric.le a b
  add (a b : N) : Numeric.add (map a) (map b) = map <$> Numeric.add a b
  sub (a b : N) : Numeric.sub (map a) (map b) = map <$> Numeric.sub a b
  mul (a b : N) : Numeric.mul (map a) (map b) = map <$> Numeric.mul a b
  div (a b : N) : Numeric.div (map a) (map b) = map <$> Numeric.div a b
  mod (a b : N) : Numeric.mod (map a) (map b) = map <$> Numeric.mod a b
  fmod (a b : N) : Numeric.fmod (map a) (map b) = map <$> Numeric.fmod a b
  floor (a : N) : Numeric.floor (map a) = map <$> Numeric.floor a
  ceil (a : N) : Numeric.ceil (map a) = map <$> Numeric.ceil a
  neg (a : N) : FloatNumeric.neg (map a) = map <$> FloatNumeric.neg a
  abs (a : N) : abs (map a) = map <$> abs a
  sqrt (a : N) : sqrt (map a) = map <$> sqrt a
  frexp (a : N) : frexp (map a) = frexp a
  ldexp (a : N) (exponent : Int) : ldexp (map a) exponent = ldexp a exponent

attribute [simp] NumericMap.toInt? NumericMap.eq NumericMap.lt NumericMap.le NumericMap.add
  NumericMap.sub NumericMap.mul NumericMap.div NumericMap.mod NumericMap.fmod NumericMap.floor
  NumericMap.ceil NumericMap.neg NumericMap.abs NumericMap.sqrt NumericMap.frexp NumericMap.ldexp

structure PairMap {N M : Type} [FloatNumeric N] [FloatNumeric M] (f : NumericMap N M) (P Q : Type)
    [Pairing N P] [Pairing M Q] where
  map : P → Q
  pack (low high : N) : (Pairing.pack (f.map low) (f.map high) : Q) = map (Pairing.pack low high)
  low (a : P) : Pairing.low (map a) = f.map <$> Pairing.low a
  high (a : P) : Pairing.high (map a) = f.map <$> Pairing.high a

attribute [simp] PairMap.low PairMap.high

@[simp] lemma map_ite_outcome {α β : Type} {change : α → β} {c : Prop} [Decidable c] {x y : Except Fault α} :
    change <$> (if c then x else y) = if c then change <$> x else change <$> y := by
  split <;> rfl

namespace NumericMap

variable {N M : Type} [FloatNumeric N] [FloatNumeric M] (f : NumericMap N M)

lemma two (exponent : Nat) : (Numeric.two exponent : M) = f.map (Numeric.two exponent) := f.ofInt _

@[simp] lemma is_zero (a : N) : Numeric.isZero (f.map a) = Numeric.isZero a := by
  simp [Numeric.isZero, f.ofInt]

variable {a : N}

@[simp] lemma plain : Numeric.plain (f.map a) = f.map <$> Numeric.plain a := by
  simp [Numeric.plain, f.ofInt]

@[simp] lemma trunc : Numeric.trunc (f.map a) = f.map <$> Numeric.trunc a := by
  simp [Numeric.trunc, f.ofInt]

@[simp] lemma power : Numeric.power (f.map a) = f.map <$> Numeric.power a := by
  unfold Numeric.power
  rw [f.toInt?]
  cases Numeric.toInt? a with
  | none => rfl
  | some value => simp [f.two]

variable {table : Array Nat} {fuel : Nat}

section I32

@[simp] lemma unsigned (a : N) : I32.unsigned (f.map a) = f.map <$> I32.unsigned a := by
  simp [I32.unsigned, f.two]

@[simp] lemma wrap : I32.wrap (f.map a) = f.map <$> I32.wrap a := by
  simp [I32.wrap, f.two]

@[simp] lemma nibble : I32.nibble table (f.map a) = f.map <$> I32.nibble table a := by
  unfold I32.nibble
  rw [f.toInt?]
  cases Numeric.toInt? a with
  | none => rfl
  | some value =>
    dsimp only
    split
    · cases table[value.toNat]? with
      | none => rfl
      | some entry => simp [f.ofInt]
    · rfl

@[simp] lemma nibbles {count : Nat} (result place a b : N) :
    I32.nibbles table count (f.map result) (f.map place) (f.map a) (f.map b) =
      f.map <$> I32.nibbles table count result place a b := by
  induction count generalizing result place a b with
  | zero => rfl
  | succ count ih => simp [I32.nibbles, f.ofInt, ih]

@[simp] lemma bitwise {a b : N} : I32.bitwise table (f.map a) (f.map b) = f.map <$> I32.bitwise table a b := by
  simp [I32.bitwise, f.ofInt]

@[simp] lemma counted_from (a count : N) : I32.clzFrom fuel (f.map a) (f.map count) = f.map <$> I32.clzFrom fuel a count ∧
    I32.ctzFrom fuel (f.map a) (f.map count) = f.map <$> I32.ctzFrom fuel a count ∧
    I32.popcntFrom fuel (f.map a) (f.map count) = f.map <$> I32.popcntFrom fuel a count := by
  induction fuel generalizing a count with
  | zero => exact ⟨rfl, rfl, rfl⟩
  | succ fuel ih => simp [I32.clzFrom, I32.ctzFrom, I32.popcntFrom, f.ofInt, f.two, ih]

@[simp] lemma counted : I32.clz (f.map a) = f.map <$> I32.clz a ∧ I32.ctz (f.map a) = f.map <$> I32.ctz a ∧
    I32.popcnt (f.map a) = f.map <$> I32.popcnt a := by
  simp [I32.clz, I32.ctz, I32.popcnt, f.ofInt]

@[simp] lemma narrow_byte (a : N) : I32.extend8 (f.map a) = f.map <$> I32.extend8 a := by
  simp [I32.extend8, f.ofInt]

@[simp] lemma narrow_half (a : N) : I32.extend16 (f.map a) = f.map <$> I32.extend16 a := by
  simp [I32.extend16, f.ofInt, f.two]

lemma word_unary (op : Wasm.IntUnary) (a : N) : I32.unary op (f.map a) = f.map <$> I32.unary op a := by
  cases op <;> simp [I32.unary]

lemma word_binary (op : Wasm.IntBinary) (a b : N) : I32.binary op (f.map a) (f.map b) = f.map <$> I32.binary op a b := by
  cases op with
  | add | sub | rotl => simp [I32.binary, I32.rotl, f.ofInt]
  | mul => simp [I32.binary, I32.mul, f.two]
  | div sign => cases sign <;> simp [I32.binary, I32.divS, I32.divU, f.ofInt]
  | rem sign => cases sign <;> simp [I32.binary, I32.remS, I32.remU]
  | and | or | xor => simp [I32.binary, I32.logic]
  | shl => simp [I32.binary, I32.shl, f.ofInt]
  | shr sign => cases sign <;> simp [I32.binary, I32.shrS, I32.shrU, f.ofInt]
  | rotr => simp [I32.binary, I32.rotr, f.ofInt, I32.rotl]

lemma ordered (op : Wasm.FloatCompare) (a b : N) : I32.ordered op (f.map a) (f.map b) = I32.ordered op a b := by
  cases op <;> simp [I32.ordered]

lemma word_compare (op : Wasm.IntCompare) (a b : N) : I32.compare op (f.map a) (f.map b) = I32.compare op a b := by
  cases op with
  | eq | ne => simp [I32.compare]
  | lt sign | gt sign | le sign | ge sign => cases sign <;> simp [I32.compare]

end I32

section Floating

lemma zero : (Floating.zero : M) = f.map Floating.zero := f.ofInt 0

lemma infinity (negative : Bool) : (infinity negative : M) = f.map (infinity negative) := f.ofNumber _

@[simp] lemma is_nan {x : N} : isNaN (f.map x) = isNaN x := by
  simp [isNaN]

@[simp] lemma is_special (x : N) : isSpecial (f.map x) = isSpecial x := by
  simp [isSpecial, isInfinite, f.infinity]

@[simp] lemma signbit {x : N} : Floating.signbit (f.map x) = Floating.signbit x := by
  simp [Floating.signbit, f.zero, f.ofInt]

@[simp] lemma round_even (x : N) : roundEven (f.map x) = f.map <$> roundEven x := by
  simp [roundEven, f.ofInt, f.ofNumber]

@[simp] lemma zero_like (negZero x : N) : zeroLike (f.map negZero) (f.map x) = f.map <$> zeroLike negZero x := by
  simp [zeroLike, f.zero]

@[simp] lemma float_neg (negZero x : N) : Floating.neg (f.map negZero) (f.map x) = f.map <$> Floating.neg negZero x := by
  simp [Floating.neg, f.zero]

@[simp] lemma truncate {x : N} : Floating.truncate (f.map x) = f.map <$> Floating.truncate x := by
  simp [Floating.truncate]

lemma binary64 (negZero : N) (op : Wasm.FloatBinary) (a b : N) : Floating.binary64 (f.map negZero) op (f.map a) (f.map b) =
      f.map <$> Floating.binary64 negZero op a b := by
  cases op with
  | add => simp [Floating.binary64, Floating.add]
  | sub => simp [Floating.binary64, Floating.sub]
  | mul => simp [Floating.binary64, Floating.mul, Floating.signed]
  | div => simp [Floating.binary64, Floating.div, Floating.signed]
  | min => simp [Floating.binary64, Floating.min, f.ofNumber]
  | max => simp [Floating.binary64, Floating.max, f.ofNumber]
  | copysign => simp [Floating.binary64, Floating.copysign]

end Floating

section Halves

def pair (a : Pair N) : Pair M := ⟨f.map a.low, f.map a.high⟩

@[simp] lemma limbs : I64.limbs (f.map a) = Prod.map f.map f.map <$> I64.limbs a := by
  simp [I64.limbs, f.two]

@[simp] lemma carry {a next : N} : I64.carry (f.map a) (f.map next) = Prod.map f.map f.map <$> I64.carry a next := by
  simp [I64.carry, f.two]

@[simp] lemma signed_half : signedHalf (f.map a) = f.map <$> signedHalf a := by
  simp [signedHalf, f.two]

@[simp] lemma shift_down {lower upper k : N} : shiftDown (f.map lower) (f.map upper) (f.map k) =
      Prod.map f.map f.map <$> shiftDown lower upper k := by
  simp [shiftDown, f.ofInt]

@[simp] lemma is_small {upper : N} : isSmall (f.map upper) = isSmall upper := by
  simp [isSmall, f.ofInt]

@[simp] lemma fits {lost : Bool} (b rest : Pair N) : I64.fits lost (f.pair b) (f.pair rest) = I64.fits lost b rest := by
  simp [I64.fits, pair]

@[simp] lemma take_off (b rest : Pair N) : takeOff (f.pair b) (f.pair rest) = f.pair <$> takeOff b rest := by
  simp [takeOff, pair, f.two, f.ofInt]

def division (state : I64.Division (Pair N)) : I64.Division (Pair M) := ⟨f.pair state.quotient, f.pair state.rest⟩

@[simp] lemma divide_step {a b : Pair N} {bit : Nat} {state : I64.Division (Pair N)} :
    divideStep (f.pair a) (f.pair b) bit (f.division state) = f.division <$> divideStep a b bit state := by
  have fitted (lost : Bool) (lower upper : N) : I64.fits lost ⟨f.map b.low, f.map b.high⟩ ⟨f.map lower, f.map upper⟩ =
        I64.fits lost b ⟨lower, upper⟩ := f.fits b ⟨lower, upper⟩
  have taken (lower upper : N) : takeOff ⟨f.map b.low, f.map b.high⟩ ⟨f.map lower, f.map upper⟩ =
        f.pair <$> takeOff b ⟨lower, upper⟩ := f.take_off b ⟨lower, upper⟩
  by_cases upper : 32 ≤ bit <;>
    simp [divideStep, division, pair, upper, f.two, f.ofInt, fitted, taken]

@[simp] lemma divide_from (a b : Pair N) (count : Nat) (state : I64.Division (Pair N)) :
    divideFrom (f.pair a) (f.pair b) count (f.division state) = f.division <$> divideFrom a b count state := by
  induction count generalizing state with
  | zero => rfl
  | succ count ih => simp [divideFrom, ih]

end Halves

section Conversion

@[simp] lemma outside_signed (bits : Nat) (x : N) : outsideSigned bits (f.map x) = outsideSigned bits x := by
  simp [outsideSigned, f.ofInt, f.two]

@[simp] lemma outside_unsigned (bits : Nat) (x : N) : outsideUnsigned bits (f.map x) = outsideUnsigned bits x := by
  simp [outsideUnsigned, f.ofInt, f.two]

lemma trunc_within (outside : N → Except Fault Bool) (outside' : M → Except Fault Bool)
    (same : ∀ x, outside' (f.map x) = outside x) (x : N) : truncWithin outside' (f.map x) = f.map <$> truncWithin outside x := by
  simp [truncWithin, same]

@[simp] lemma to_i32 (sign : Wasm.Sign) (x : N) : toI32 sign (f.map x) = f.map <$> toI32 sign x := by
  cases sign with
  | signed => simp [toI32, f.trunc_within _ _ (f.outside_signed 31)]
  | unsigned => simp [toI32, f.trunc_within _ _ (f.outside_unsigned 32)]

@[simp] lemma saturate_i32 (sign : Wasm.Sign) (x : N) : saturateI32 sign (f.map x) = f.map <$> saturateI32 sign x := by
  cases sign <;> simp [saturateI32, f.zero, f.ofInt, f.two]

@[simp] lemma sign_and_size {x : N} : signAndSize (f.map x) = Prod.map f.map f.map <$> signAndSize x := by
  simp [signAndSize, f.zero, f.two]

@[simp] lemma fraction_of {significand : Number} {weight : N} : fractionOf significand (f.map weight) =
      f.map <$> fractionOf significand weight := by
  simp [fractionOf, f.ofNumber, f.ofInt]

@[simp] lemma size_bits32 {x : N} : sizeBits32 (f.map x) = f.map <$> sizeBits32 x := by
  simp [sizeBits32, f.infinity, f.zero, f.ofInt, f.ofNumber]

@[simp] lemma bits32 {x : N} : Conversion.bits32 (f.map x) = f.map <$> Conversion.bits32 x := by
  simp [Conversion.bits32, f.ofInt]

@[simp] lemma signed (negative : Bool) (x : N) :
    Conversion.signed negative (f.map x) = f.map <$> Conversion.signed negative x := by
  simp [Conversion.signed, f.ofInt]

@[simp] lemma assemble {negZero : N} {negative : Bool} {full : Nat} {unit : Int} {leading biased fraction : N} :
    Conversion.assemble (f.map negZero) negative full unit (f.map leading) (f.map biased) (f.map fraction) =
      f.map <$> Conversion.assemble negZero negative full unit leading biased fraction := by
  simp [Conversion.assemble, f.infinity, f.ofInt, f.ofNumber]

@[simp] lemma of_bits32 (negZero word : N) : ofBits32 (f.map negZero) (f.map word) = f.map <$> ofBits32 negZero word := by
  simp [ofBits32, f.ofInt, f.two, ok_bind]

@[simp] lemma narrowing (upper : N) (shift : Nat) :
    Conversion.narrowing fuel (f.map upper) shift = Conversion.narrowing fuel upper shift := by
  induction fuel generalizing upper shift with
  | zero => rfl
  | succ fuel ih => simp [Conversion.narrowing, f.ofInt, ih]

@[simp] lemma narrow {lower upper : N} :
    Conversion.narrow (f.map lower) (f.map upper) = f.map <$> Conversion.narrow lower upper := by
  simp [Conversion.narrow, f.ofInt, f.two, ok_bind]

end Conversion

end NumericMap

namespace PairMap

variable {N M P Q : Type} [FloatNumeric N] [FloatNumeric M] [Pairing N P] [Pairing M Q]
variable {f : NumericMap N M} (g : PairMap f P Q)

@[simp] lemma add (a b : P) : I64.add (g.map a) (g.map b) = g.map <$> I64.add a b := by
  simp [I64.add, f.ofInt, f.two, g.pack]

@[simp] lemma sub (a b : P) : I64.sub (g.map a) (g.map b) = g.map <$> I64.sub a b := by
  simp [I64.sub, f.ofInt, f.two, g.pack]

@[simp] lemma mul (a b : P) : I64.mul (g.map a) (g.map b) = g.map <$> I64.mul a b := by
  simp [I64.mul, f.two, g.pack]

variable {a b : P} {k : N}

@[simp] lemma neg {zero : P} : I64.neg (g.map zero) (g.map a) = g.map <$> I64.neg zero a := by
  simp [I64.neg]

@[simp] lemma is_negative (a : P) : isNegative (g.map a) = isNegative a := by
  simp [isNegative, f.two]

@[simp] lemma is_zero (a : P) : isZero (g.map a) = isZero a := by
  simp [isZero]

def division (state : I64.Division P) : I64.Division Q := ⟨g.map state.quotient, g.map state.rest⟩

lemma split (a : N) : (I64.split (f.map a) : Except Fault Q) = g.map <$> I64.split a := by
  simp [I64.split, f.two, g.pack]

lemma divide_small (a b : Pair N) : (divideSmall (f.pair a) (f.pair b) : Except Fault (I64.Division Q)) =
      g.division <$> divideSmall a b := by
  simp [divideSmall, NumericMap.pair, f.two, f.ofInt, g.split, division]

lemma divide_long (a b : Pair N) : (divideLong (f.pair a) (f.pair b) : Except Fault (I64.Division Q)) =
      g.division <$> divideLong a b := by
  have start : (⟨⟨Numeric.ofInt 0, Numeric.ofInt 0⟩, ⟨Numeric.ofInt 0, Numeric.ofInt 0⟩⟩ : I64.Division (Pair M)) =
        f.division ⟨⟨Numeric.ofInt 0, Numeric.ofInt 0⟩, ⟨Numeric.ofInt 0, Numeric.ofInt 0⟩⟩ := by
    simp [NumericMap.division, NumericMap.pair, f.ofInt]
  simp only [divideLong, start, f.divide_from]
  simp [NumericMap.division, NumericMap.pair, g.pack, division]

@[simp] lemma divide : I64.divide (g.map a) (g.map b) = g.division <$> I64.divide a b := by
  have small (lower upper lower' upper' : N) :
      (divideSmall ⟨f.map lower, f.map upper⟩ ⟨f.map lower', f.map upper'⟩ : Except Fault (I64.Division Q)) =
        g.division <$> divideSmall ⟨lower, upper⟩ ⟨lower', upper'⟩ :=
    g.divide_small ⟨lower, upper⟩ ⟨lower', upper'⟩
  have long (lower upper lower' upper' : N) :
      (divideLong ⟨f.map lower, f.map upper⟩ ⟨f.map lower', f.map upper'⟩ : Except Fault (I64.Division Q)) =
        g.division <$> divideLong ⟨lower, upper⟩ ⟨lower', upper'⟩ :=
    g.divide_long ⟨lower, upper⟩ ⟨lower', upper'⟩
  simp [I64.divide, small, long]

@[simp] lemma magnitude {zero : P} {negative : Bool} :
    I64.magnitude (g.map zero) negative (g.map a) = g.map <$> I64.magnitude zero negative a := by
  simp [I64.magnitude]

@[simp] lemma count : I64.count (g.map b) = f.map <$> I64.count b := by
  simp [I64.count, f.ofInt]

@[simp] lemma shl (a : P) (k : N) : I64.shl (g.map a) (f.map k) = g.map <$> I64.shl a k := by
  simp [I64.shl, f.ofInt, g.pack]

@[simp] lemma shr_unsigned : shrU (g.map a) (f.map k) = g.map <$> shrU a k := by
  simp [shrU, f.ofInt, g.pack]

@[simp] lemma shr_signed : shrS (g.map a) (f.map k) = g.map <$> shrS a k := by
  simp [shrS, f.ofInt, f.two, g.pack, ok_bind]

@[simp] lemma join {left right : P} : I64.join (g.map left) (g.map right) = g.map <$> I64.join left right := by
  simp [I64.join, g.pack]

lemma small (a : N) : (I64.small (f.map a) : Q) = g.map (I64.small a) := by
  simp [I64.small, f.ofInt, g.pack]

lemma unary (op : Wasm.IntUnary) (a : P) : I64.unary op (g.map a) = g.map <$> I64.unary op a := by
  cases op <;> simp [I64.unary, f.ofInt, g.small]

lemma binary (zero : P) (op : Wasm.IntBinary) (a b : P) :
    I64.binary (g.map zero) op (g.map a) (g.map b) = g.map <$> I64.binary zero op a b := by
  cases op with
  | add | sub | mul | shl => simp [I64.binary]
  | div sign => cases sign <;> simp [I64.binary, I64.divS, I64.divU, division, I64.overflows, f.ofInt, f.two]
  | rem sign => cases sign <;> simp [I64.binary, I64.remS, I64.remU, division]
  | and | or | xor => simp [I64.binary, I64.bitwise, g.pack]
  | shr sign => cases sign <;> simp [I64.binary]
  | rotl => simp [I64.binary, I64.rotl, f.ofInt]
  | rotr => simp [I64.binary, I64.rotr, f.ofInt]

lemma compare (op : Wasm.IntCompare) (a b : P) : I64.compare op (g.map a) (g.map b) = I64.compare op a b := by
  cases op with
  | eq | ne => simp [I64.compare, I64.same]
  | lt sign | gt sign | le sign | ge sign => cases sign <;> simp [I64.compare, ltU, ltS]

lemma extend_signed (a : N) : (extendS (f.map a) : Except Fault Q) = g.map <$> extendS a := by
  simp [extendS, f.ofInt, f.two, g.pack, g.small]

lemma extend_unsigned (a : N) : (extendU (f.map a) : Except Fault Q) = g.map <$> extendU a := by
  simp [extendU, f.two, g.small]

@[simp] lemma wrap : I64.wrap (g.map a) = f.map <$> I64.wrap a := by
  simp [I64.wrap]

@[simp] lemma extend_byte (a : P) : extend8 (g.map a) = g.map <$> extend8 a := by
  simp [extend8, g.extend_signed]

@[simp] lemma extend_half (a : P) : extend16 (g.map a) = g.map <$> extend16 a := by
  simp [extend16, g.extend_signed]

@[simp] lemma extend_word (a : P) : extend32 (g.map a) = g.map <$> extend32 a := by
  simp [extend32, g.extend_signed]

lemma of_integer (a : N) : (ofInteger (f.map a) : Except Fault Q) = g.map <$> ofInteger a := by
  simp [ofInteger, f.two, g.pack]

lemma to_i64 (sign : Wasm.Sign) (x : N) : (toI64 sign (f.map x) : Except Fault Q) = g.map <$> toI64 sign x := by
  cases sign with
  | signed => simp [toI64, f.trunc_within _ _ (f.outside_signed 63), g.of_integer]
  | unsigned => simp [toI64, f.trunc_within _ _ (f.outside_unsigned 64), g.of_integer]

lemma saturate_i64 (zero : P) (sign : Wasm.Sign) (x : N) :
    saturateI64 (g.map zero) sign (f.map x) = g.map <$> saturateI64 zero sign x := by
  cases sign <;> simp [saturateI64, f.zero, f.ofInt, f.two, g.pack, g.of_integer]

lemma size_bits64 (sign x : N) : (sizeBits64 (f.map sign) (f.map x) : Except Fault Q) = g.map <$> sizeBits64 sign x := by
  simp [sizeBits64, f.infinity, f.zero, f.ofInt, f.ofNumber, f.two, g.pack]

lemma bits64 (x : N) : (Conversion.bits64 (f.map x) : Except Fault Q) = g.map <$> Conversion.bits64 x := by
  simp [Conversion.bits64, f.zero, f.ofInt, g.pack, g.size_bits64]

@[simp] lemma of_bits64 (negZero : N) (word : P) : ofBits64 (f.map negZero) (g.map word) = f.map <$> ofBits64 negZero word := by
  simp [ofBits64, f.ofInt, f.two, ok_bind]

@[simp] lemma to_f64 (sign : Wasm.Sign) (a : P) : i64ToF64 sign (g.map a) = f.map <$> i64ToF64 sign a := by
  cases sign <;> simp [i64ToF64, f.two, ok_bind]

end PairMap

end WasmLua.Exec
