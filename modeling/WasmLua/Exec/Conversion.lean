import WasmLua.Exec.Floating

namespace WasmLua.Exec

namespace Conversion

open Numeric FloatNumeric Pairing Numeric
open Floating (zero isNaN signbit)

variable {N P : Type} [FloatNumeric N] [Pairing N P]

@[specialize] def outsideSigned (bits : Nat) (x : N) : Except Fault Bool := do
  if ← lt x (ofInt (-(Nat.pow 2 bits))) then return true else le (two bits) x

@[specialize] def outsideUnsigned (bits : Nat) (x : N) : Except Fault Bool := do
  if ← le x (ofInt (-1)) then return true else le (two bits) x

@[specialize] def truncWithin (outside : N → Except Fault Bool) (x : N) : Except Fault N := do
  if isNaN x then .error (.trap .invalidConversion)
  else
    let whole ← trunc x
    if ← outside whole then .error (.trap .integerOverflow) else return whole

@[specialize] def toI32 (sign : Wasm.Sign) (x : N) : Except Fault N :=
  match sign with
  | .signed => do plain (← truncWithin (outsideSigned 31) x)
  | .unsigned => do I32.wrap (← truncWithin (outsideUnsigned 32) x)

@[specialize] def toI64 (sign : Wasm.Sign) (x : N) : Except Fault P :=
  match sign with
  | .signed => do I64.ofInteger (← truncWithin (outsideSigned 63) x)
  | .unsigned => do I64.ofInteger (← truncWithin (outsideUnsigned 64) x)

@[specialize] def saturateI32 (sign : Wasm.Sign) (x : N) : Except Fault N :=
  match sign with
  | .signed => do
    if isNaN x then return zero
    else if ← lt x (ofInt (-2147483648)) then return ofInt (-2147483648)
    else if ← le (two 31) x then return ofInt 2147483647
    else plain (← trunc x)
  | .unsigned => do
    if isNaN x then return zero
    else if ← le x (ofInt (-1)) then return zero
    else if ← le (two 32) x then return ofInt (-1)
    else I32.wrap (← trunc x)

@[specialize] def saturateI64 (none : P) (sign : Wasm.Sign) (x : N) : Except Fault P :=
  match sign with
  | .signed => do
    if isNaN x then return none
    else if ← lt x (ofInt (-9223372036854775808)) then return pack zero (two 31)
    else if ← le (two 63) x then return pack (ofInt 4294967295) (ofInt 2147483647)
    else I64.ofInteger (← trunc x)
  | .unsigned => do
    if isNaN x then return none
    else if ← le x (ofInt (-1)) then return none
    else if ← le (two 64) x then return pack (ofInt 4294967295) (ofInt 4294967295)
    else I64.ofInteger (← trunc x)

@[specialize] def signAndSize (x : N) : Except Fault (N × N) := do
  if ← signbit x then return (two 31, ← FloatNumeric.neg x) else return (zero, x)

@[specialize] def fractionOf (significand : Number) (weight : N) : Except Fault N := do
  mul (← sub (← mul (ofNumber significand) (ofInt 2)) (ofInt 1)) weight

@[specialize] def sizeBits32 (x : N) : Except Fault N := do
  if eq x (Floating.infinity false) then return ofInt 2139095040
  else if isZero x then return zero
  else
    let (significand, exponent) ← frexp x
    let biased := exponent + 126
    if biased ≤ 0 then return ofNumber (← ldexp x 149)
    else
      add (← mul (ofInt biased) (ofInt 8388608)) (← fractionOf significand (ofInt 8388608))

@[specialize] def bits32 (x : N) : Except Fault N := do
  if isNaN x then return ofInt 2143289344
  else
    let (sign, size) ← signAndSize x
    I32.wrap (← add sign (← sizeBits32 size))

@[specialize] def signed (negative : Bool) (x : N) : Except Fault N := mul (ofInt (if negative then -1 else 1)) x

@[specialize] def assemble (negZero : N) (negative : Bool) (full : Nat) (unit : Int) (leading : N)
    (biased fraction : N) : Except Fault N := do
  if eq biased (ofInt full) then
    if isZero fraction then signed negative (Floating.infinity false)
    else return ofNumber .nan
  else if isZero biased then
    if isZero fraction && negative then return negZero
    else signed negative (ofNumber (← ldexp fraction unit))
  else
    let exponent := (toInt? biased).getD 0 - 1 + unit
    signed negative (ofNumber (← ldexp (← add fraction leading) exponent))

@[specialize] def ofBits32 (negZero word : N) : Except Fault N := do
  let word ← I32.unsigned word
  let negative ← le (two 31) word
  let word ← if negative then sub word (two 31) else .ok word
  let biased ← floor (← div word (ofInt 8388608))
  let fraction ← mod word (ofInt 8388608)
  assemble negZero negative 255 (-149) (ofInt 8388608) biased fraction

@[specialize] def sizeBits64 (sign x : N) : Except Fault P := do
  if eq x (Floating.infinity false) then
    return pack zero (← add (ofInt 2146435072) sign)
  else if isZero x then return pack zero sign
  else
    let (significand, exponent) ← frexp x
    let subnormal := exponent + 1022 ≤ 0
    let biased : Int := if subnormal then 0 else exponent + 1022
    let fraction ←
      if subnormal then ofNumber <$> ldexp x 1074 else fractionOf significand (two 52)
    let upper ← floor (← div fraction (two 32))
    return pack (← sub fraction (← mul upper (two 32))) (← add (← add (← mul (ofInt biased) (ofInt 1048576)) upper) sign)

@[specialize] def bits64 (x : N) : Except Fault P := do
  if isNaN x then return pack zero (ofInt 2146959360)
  else
    let (sign, size) ← signAndSize x
    sizeBits64 sign size

@[specialize] def ofBits64 (negZero : N) (word : P) : Except Fault N := do
  let lower ← low word
  let upper ← high word
  let negative ← le (two 31) upper
  let upper ← if negative then sub upper (two 31) else .ok upper
  let biased ← floor (← div upper (ofInt 1048576))
  let fraction ← add (← mul (← mod upper (ofInt 1048576)) (two 32)) lower
  assemble negZero negative 2047 (-1074) (two 52) biased fraction

@[specialize] def narrowing : Nat → N → Nat → Except Fault Nat
  | 0, _, shift => .ok shift
  | fuel + 1, upper, shift => do
    if ← le (ofInt 2097152) upper then
      narrowing fuel (← floor (← div upper (ofInt 2))) (shift + 1)
    else return shift

@[specialize] def narrow (lower upper : N) : Except Fault N := do
  if ← lt upper (ofInt 2097152) then add (← mul upper (two 32)) lower
  else
    let shift ← narrowing 64 upper 0
    let factor : N := two shift
    let cut ← mod upper factor
    let kept ← mul (← div (← sub upper cut) factor) (two 32)
    let q ← add (← add kept (← mul cut (two (32 - shift)))) (← floor (← div lower factor))
    let exact := isZero (← mod lower factor)
    let q ← if !exact && isZero (← mod q (ofInt 2)) then add q (ofInt 1) else .ok q
    mul q factor

@[specialize] def i64ToF64 (sign : Wasm.Sign) (a : P) : Except Fault N := do
  let upper ← high a
  let upper ← match sign with
    | .signed => I64.signedHalf upper
    | .unsigned => .ok upper
  add (← mul upper (two 32)) (← low a)

end Conversion

namespace Shared

open Conversion

variable {M : Type → Type} [Monad M] [MonadLiftT (Except Fault) M]
variable {N P : Type} [FloatNumeric N] [Pairing N P]

@[specialize] def ofI32 (shared : Shared M N P) (type : Wasm.FloatType) (sign : Wasm.Sign) (x : N) : M N := do
  match type, sign with
  | .f32, .signed => shared.fround (← (Numeric.plain x : Except Fault N))
  | .f32, .unsigned => shared.fround (← (I32.unsigned x : Except Fault N))
  | .f64, .signed => return x
  | .f64, .unsigned => (I32.unsigned x : Except Fault N)

@[specialize] def unsignedToF32 (shared : Shared M N P) (a : P) : M N := do
  let lower ← (Pairing.low a : Except Fault N)
  let upper ← (Pairing.high a : Except Fault N)
  shared.fround (← (narrow lower upper : Except Fault N))

@[specialize] def ofI64 (shared : Shared M N P) (type : Wasm.FloatType) (sign : Wasm.Sign) (a : P) : M N := do
  match type, sign with
  | .f32, .signed =>
    if ← (I64.isNegative a : Except Fault Bool) then
      let size ← shared.unsignedToF32 (← (I64.neg shared.zero a : Except Fault P))
      (FloatNumeric.neg size : Except Fault N)
    else shared.unsignedToF32 a
  | .f32, .unsigned => shared.unsignedToF32 a
  | .f64, sign => (i64ToF64 sign a : Except Fault N)

end Shared

end WasmLua.Exec
