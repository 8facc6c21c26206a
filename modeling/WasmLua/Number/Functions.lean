import WasmLua.Number.Basic

namespace WasmLua.Number

def floor : Number → Number
  | .finite value => .finite (value.floor : Rat)
  | other => other

def ceil : Number → Number
  | .finite value =>
    let whole := value.ceil
    if whole = 0 ∧ value.num < 0 then .negZero else .finite (whole : Rat)
  | other => other

def abs : Number → Number
  | .nan => .nan
  | .infinity _ => .infinity false
  | .negZero => .finite 0
  | .finite value => .finite (if value.num < 0 then -value else value)

def rootEstimate (value : Rat) : Rat :=
  let shift := (130 - binaryExponent value).toNat / 2 + 1
  let scaled := value * pow2 (2 * shift : Nat)
  let whole := scaled.num.natAbs / scaled.den
  let root := Nat.sqrt whole
  let exact := root * root * scaled.den == scaled.num.natAbs
  ((2 * root + (if exact then 0 else 1) : Nat) : Rat) * pow2 (-((shift : Int) + 1))

def sqrt : Number → Number
  | .infinity false => .infinity false
  | .negZero => .negZero
  | .finite value =>
    if value.num < 0 then .nan
    else if value.num == 0 then .finite 0
    else round (rootEstimate value)
  | _ => .nan

def fmod (a b : Number) : Number :=
  match a, b with
  | .nan, _ => .nan
  | _, .nan => .nan
  | .infinity _, _ => .nan
  | a, .infinity _ => a
  | a, b =>
    if b.isZero then .nan
    else
      let rest := truncatedRemainder a.rational b.rational
      if rest.num == 0 then (if a.isNegative then .negZero else .finite 0) else .finite rest

def frexp : Number → Number × Int
  | .finite value =>
    if value.num == 0 then (.finite 0, 0)
    else
      let exponent := binaryExponent value + 1
      (.finite (value * pow2 (-exponent)), exponent)
  | other => (other, 0)

def ldexp (significand : Number) (exponent : Int) : Number :=
  match significand with
  | .finite value => roundSigned .binary64 (decide (value.num < 0)) (value * pow2 exponent)
  | other => other

namespace Signed

def withSign (negative : Bool) (result : Number) : Number :=
  if result.isZero && negative then .negZero else result

def neg : Number → Number
  | .finite value => if value.num == 0 then .negZero else .finite (-value)
  | other => other.neg

def add (a b : Number) : Number := withSign (a.isNegative && b.isNegative) (a + b)
def sub (a b : Number) : Number := add a (neg b)
def mul (a b : Number) : Number := withSign (a.isNegative != b.isNegative) (a * b)
def div (a b : Number) : Number := withSign (a.isNegative != b.isNegative) (a / b)
def mod (a b : Number) : Number := withSign a.isNegative (a % b)

end Signed

end WasmLua.Number
