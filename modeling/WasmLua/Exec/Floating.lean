import WasmLua.Exec.I64
import WasmLua.Target.Operation

namespace WasmLua.Exec

class FloatNumeric (N : Type) extends Numeric N where
  ofNumber : Number → N
  neg : N → Except Fault N
  abs : N → Except Fault N
  sqrt : N → Except Fault N
  frexp : N → Except Fault (Number × Int)
  ldexp : N → Int → Except Fault Number

instance : FloatNumeric Number where
  ofNumber := id
  neg := fun a => .ok (-a)
  abs := fun a => .ok a.abs
  sqrt := fun a => .ok a.sqrt
  frexp := fun a => .ok a.frexp
  ldexp := fun a exponent => .ok (a.ldexp exponent)

namespace Floating

open Numeric FloatNumeric

variable {N : Type} [FloatNumeric N]

@[inline] def zero : N := ofInt 0

def half : Number := .finite (mkRat 1 2)

@[inline] def infinity (negative : Bool) : N := ofNumber (.infinity negative)

@[specialize] def isNaN (x : N) : Bool := !eq x x

@[specialize] def isInfinite (x : N) : Bool := eq x (infinity false) || eq x (infinity true)

@[specialize] def isSpecial (x : N) : Bool := isNaN x || isZero x || isInfinite x

@[specialize] def signbit (x : N) : Except Fault Bool := do
  if ← lt x zero then return true
  else if isZero x then lt (← Numeric.div (ofInt 1) x) zero
  else return false

@[specialize] def roundEven (x : N) : Except Fault N := do
  let whole ← floor x
  let rest ← Numeric.sub x whole
  if ← lt (ofNumber half) rest then Numeric.add whole (ofInt 1)
  else if ← lt rest (ofNumber half) then return whole
  else if isZero (← mod whole (ofInt 2)) then return whole
  else Numeric.add whole (ofInt 1)

@[specialize] def zeroLike (negZero x : N) : Except Fault N := do
  if ← lt x zero then return negZero else return zero

def clamp (x : Number) : Number :=
  let bound : Number := .ofInt (Nat.pow 2 128)
  if bound.le x then .infinity false
  else if x.le (-bound) then .infinity true
  else x

section Rounding

variable {M : Type → Type} [Monad M] [MonadLiftT (Except Fault) M]

@[specialize] def froundWith (negZero : N) (round : N → M N) (x : N) : M N := do
  if isSpecial x then return x
  else
    let (significand, exponent) ← (frexp x : Except Fault (Number × Int))
    let places : Int := if exponent < -125 then 24 + (exponent + 125) else 24
    if places < 0 then (zeroLike negZero x : Except Fault N)
    else
      let rounded ← round (ofNumber (significand.ldexp places))
      if isZero rounded then (zeroLike negZero x : Except Fault N)
      else
        let result ← (ldexp rounded (exponent - places) : Except Fault Number)
        return ofNumber (clamp result)

@[specialize] def nearestWith (negZero : N) (round : N → M N) (x : N) : M N := do
  if isSpecial x then return x
  else
    let rounded ← round x
    if isZero rounded then
      if ← (lt x zero : Except Fault Bool) then return negZero else return rounded
    else return rounded

end Rounding

def fround (x : Number) : Except Fault Number := froundWith .negZero roundEven x

@[specialize] def min (a b : N) : Except Fault N := do
  if isNaN a || isNaN b then return ofNumber .nan
  else if eq a b then
    if ← signbit a then return a else return b
  else if ← lt a b then return a
  else return b

@[specialize] def max (a b : N) : Except Fault N := do
  if isNaN a || isNaN b then return ofNumber .nan
  else if eq a b then
    if ← signbit a then return b else return a
  else if ← lt b a then return a
  else return b

@[specialize] def copysign (negZero a b : N) : Except Fault N := do
  let size ← abs a
  if ← signbit b then
    if isZero size then return negZero else FloatNumeric.neg size
  else return size

@[specialize] def neg (negZero x : N) : Except Fault N := do
  if isZero x then
    if ← signbit x then return zero else return negZero
  else FloatNumeric.neg x

@[specialize] def add (negZero a b : N) : Except Fault N := do
  let result ← Numeric.add a b
  if isZero result then
    if ← signbit a then
      if ← signbit b then return negZero
    return result
  else return result

@[specialize] def sub (negZero a b : N) : Except Fault N := do
  let result ← Numeric.sub a b
  if isZero result then
    if ← signbit a then
      if !(← signbit b) then return negZero
    return result
  else return result

@[specialize] def signed (negZero a b result : N) : Except Fault N := do
  if isZero result then
    let first ← signbit a
    let second ← signbit b
    if first != second then return negZero else return result
  else return result

@[specialize] def mul (negZero a b : N) : Except Fault N := do
  signed negZero a b (← Numeric.mul a b)

@[specialize] def div (negZero a b : N) : Except Fault N := do
  signed negZero a b (← Numeric.div a b)

@[specialize] def truncate (x : N) : Except Fault N := if isNaN x then .ok x else trunc x

@[specialize] def binary64 (negZero : N) (op : Wasm.FloatBinary) (a b : N) : Except Fault N :=
  match op with
  | .add => add negZero a b
  | .sub => sub negZero a b
  | .mul => mul negZero a b
  | .div => div negZero a b
  | .min => min a b
  | .max => max a b
  | .copysign => copysign negZero a b

end Floating

structure Shared (M : Type → Type) (N P : Type) where
  negZero : N
  zero : P
  roundEven : N → M N

namespace Shared

def standard : Shared (Except Fault) Number (Pair Number) := ⟨.negZero, ⟨.ofInt 0, .ofInt 0⟩, Floating.roundEven⟩

variable {M : Type → Type} [Monad M] [MonadLiftT (Except Fault) M]
variable {N P : Type} [FloatNumeric N]

@[specialize] def fround (shared : Shared M N P) (x : N) : M N := Floating.froundWith shared.negZero shared.roundEven x

@[specialize] def nearest (shared : Shared M N P) (x : N) : M N := Floating.nearestWith shared.negZero shared.roundEven x

@[specialize] def floatUnary (shared : Shared M N P) (type : Wasm.FloatType) (op : Wasm.FloatUnary) (a : N) : M N :=
  match op with
  | .abs => (FloatNumeric.abs a : Except Fault N)
  | .neg => (Floating.neg shared.negZero a : Except Fault N)
  | .ceil => (Numeric.ceil a : Except Fault N)
  | .floor => (Numeric.floor a : Except Fault N)
  | .trunc => (Floating.truncate a : Except Fault N)
  | .nearest => shared.nearest a
  | .sqrt => do
    let root ← (FloatNumeric.sqrt a : Except Fault N)
    match type with
    | .f32 => shared.fround root
    | .f64 => return root

@[specialize] def floatBinary (shared : Shared M N P) (type : Wasm.FloatType) (op : Wasm.FloatBinary) (a b : N) : M N := do
  let result ← (Floating.binary64 shared.negZero op a b : Except Fault N)
  match type with
  | .f32 => if Target.roundsBinary op then shared.fround result else return result
  | .f64 => return result

end Shared

end WasmLua.Exec
