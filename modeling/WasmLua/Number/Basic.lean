/-!
Binary floating-point numbers as values: NaN, the infinities, negative zero and the rationals.
-/

namespace WasmLua

structure Format where
  precision : Nat
  exponentBits : Nat
deriving DecidableEq, Repr

inductive Number where
  | nan
  | infinity (negative : Bool)
  | negZero
  | finite (value : Rat)
deriving DecidableEq, Hashable, Repr

def pow2 : Int → Rat
  | .ofNat n => (Nat.pow 2 n : Rat)
  | .negSucc n => mkRat 1 (Nat.pow 2 (n + 1))

def binaryExponent (value : Rat) : Int :=
  let size := value.num.natAbs
  let guess : Int := (size.log2 : Int) - (value.den.log2 : Int)
  let above :=
    if 0 ≤ guess then value.den * Nat.pow 2 guess.toNat ≤ size
    else value.den ≤ size * Nat.pow 2 (-guess).toNat
  if above then guess else guess - 1

def roundDiv (num den : Nat) : Nat :=
  let whole := num / den
  let rest := 2 * (num % den)
  if rest < den then whole
  else if den < rest then whole + 1
  else whole + whole % 2

namespace Format

def binary32 : Format := ⟨24, 8⟩
def binary64 : Format := ⟨53, 11⟩

def maxExponent (format : Format) : Nat := Nat.pow 2 (format.exponentBits - 1)

def minExponent (format : Format) : Int := 3 - (format.maxExponent : Int) - (format.precision : Int)

def unitExponent (format : Format) (value : Rat) : Int :=
  max (binaryExponent value - (format.precision : Int) + 1) format.minExponent

def nearest (format : Format) (value : Rat) : Rat :=
  if value.den = 1 ∧ value.num.natAbs ≤ Nat.pow 2 format.precision then value
  else
    let exponent := format.unitExponent value
    let scaled := value * pow2 (-exponent)
    let whole := roundDiv scaled.num.natAbs scaled.den
    (if value.num < 0 then -(whole : Rat) else (whole : Rat)) * pow2 exponent

def round (format : Format) (value : Rat) : Number :=
  let result := format.nearest value
  if (Nat.pow 2 format.maxExponent : Int) * (result.den : Int) ≤ (result.num.natAbs : Int) then
    .infinity (decide (value.num < 0))
  else .finite result

end Format

namespace Number

def ofInt (value : Int) : Number := .finite (value : Rat)

instance : Inhabited Number := ⟨.finite 0⟩

def rational : Number → Rat
  | .finite value => value
  | _ => 0

def isNaN : Number → Bool
  | .nan => true
  | _ => false

def isNegative : Number → Bool
  | .infinity negative => negative
  | .negZero => true
  | .finite value => decide (value.num < 0)
  | .nan => false

def isZero : Number → Bool
  | .negZero => true
  | .finite value => value.num == 0
  | _ => false

def round (value : Rat) : Number := Format.binary64.round value

def roundSigned (format : Format) (negative : Bool) (value : Rat) : Number :=
  match format.round value with
  | .finite result => if result.num == 0 && negative then .negZero else .finite result
  | other => other

def neg : Number → Number
  | .nan => .nan
  | .infinity negative => .infinity !negative
  | .negZero => .finite 0
  | .finite value => .finite (-value)

def add : Number → Number → Number
  | .nan, _ => .nan
  | _, .nan => .nan
  | .infinity a, .infinity b => if a = b then .infinity a else .nan
  | .infinity a, _ => .infinity a
  | _, .infinity b => .infinity b
  | a, b => round (a.rational + b.rational)

def sub (a b : Number) : Number := add a (neg b)

def mul (a b : Number) : Number :=
  let negative := a.isNegative != b.isNegative
  match a, b with
  | .nan, _ => .nan
  | _, .nan => .nan
  | .infinity _, b => if b.isZero then .nan else .infinity negative
  | a, .infinity _ => if a.isZero then .nan else .infinity negative
  | a, b => round (a.rational * b.rational)

def div (a b : Number) : Number :=
  let negative := a.isNegative != b.isNegative
  match a, b with
  | .nan, _ => .nan
  | _, .nan => .nan
  | .infinity _, .infinity _ => .nan
  | .infinity _, _ => .infinity negative
  | _, .infinity _ => .finite 0
  | a, b =>
    if b.isZero then (if a.isZero then .nan else .infinity negative)
    else round (a.rational / b.rational)

def truncatedRemainder (a b : Rat) : Rat :=
  let quotient := a / b
  a - b * ((quotient.num.tdiv quotient.den : Int) : Rat)

def mod (a b : Number) : Number :=
  match a, b with
  | .nan, _ => .nan
  | _, .nan => .nan
  | .infinity _, _ => .nan
  | a, .infinity negative =>
    if a.isZero then .finite 0
    else if a.isNegative == negative then a
    else .infinity negative
  | a, b =>
    if b.isZero then .nan
    else
      let rest := truncatedRemainder a.rational b.rational
      if rest.num == 0 then .finite 0
      else if decide (rest.num < 0) == b.isNegative then .finite rest
      else round (rest + b.rational)

def eq : Number → Number → Bool
  | .nan, _ => false
  | _, .nan => false
  | .infinity a, .infinity b => a == b
  | .infinity _, _ => false
  | _, .infinity _ => false
  | a, b => a.rational == b.rational

def lt : Number → Number → Bool
  | .nan, _ => false
  | _, .nan => false
  | .infinity a, .infinity b => a && !b
  | .infinity a, _ => a
  | _, .infinity b => !b
  | a, b => decide (a.rational < b.rational)

def le (a b : Number) : Bool := lt a b || eq a b

instance : Add Number := ⟨add⟩
instance : Sub Number := ⟨sub⟩
instance : Mul Number := ⟨mul⟩
instance : Div Number := ⟨div⟩
instance : Mod Number := ⟨mod⟩
instance : Neg Number := ⟨neg⟩

def toInt? : Number → Option Int
  | .negZero => some 0
  | .finite value => if value.den = 1 then some value.num else none
  | _ => none

end Number

end WasmLua
