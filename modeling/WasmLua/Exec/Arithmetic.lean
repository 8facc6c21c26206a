import WasmLua.Exec.Trap
import WasmLua.Number.Functions

namespace WasmLua.Exec

class Arithmetic (N : Type) extends Add N, Sub N, Mul N, Div N where
  ofInt : Int → N
  mod : N → N → N
  fmod : N → N → N
  floor : N → N
  ceil : N → N
  eq : N → N → Bool
  lt : N → N → Bool
  toInt? : N → Option Int

instance : Arithmetic Number where
  ofInt := Number.ofInt
  mod := Number.mod
  fmod := Number.fmod
  floor := Number.floor
  ceil := Number.ceil
  eq := Number.eq
  lt := Number.lt
  toInt? := Number.toInt?

instance : Arithmetic Rat where
  ofInt := fun value => (value : Rat)
  mod := fun a b => a - b * ((a / b).floor : Rat)
  fmod := Number.truncatedRemainder
  floor := fun a => (a.floor : Rat)
  ceil := fun a => (a.ceil : Rat)
  eq := fun a b => a == b
  lt := fun a b => decide (a < b)
  toInt? := fun a => if a.den = 1 then some a.num else none

namespace Arithmetic

variable {N : Type} [Arithmetic N]

@[inline] def two (exponent : Nat) : N := ofInt (Nat.pow 2 exponent)

@[inline] def unsigned (a : N) : N := mod a (two 32)

end Arithmetic

class Numeric (N : Type) where
  ofInt : Int → N
  toInt? : N → Option Int
  eq : N → N → Bool
  lt : N → N → Except Fault Bool
  le : N → N → Except Fault Bool
  add : N → N → Except Fault N
  sub : N → N → Except Fault N
  mul : N → N → Except Fault N
  div : N → N → Except Fault N
  mod : N → N → Except Fault N
  fmod : N → N → Except Fault N
  floor : N → Except Fault N
  ceil : N → Except Fault N

instance {N : Type} [Arithmetic N] : Numeric N where
  ofInt := Arithmetic.ofInt
  toInt? := Arithmetic.toInt?
  eq := Arithmetic.eq
  lt := fun a b => .ok (Arithmetic.lt a b)
  le := fun a b => .ok (Arithmetic.lt a b || Arithmetic.eq a b)
  add := fun a b => .ok (a + b)
  sub := fun a b => .ok (a - b)
  mul := fun a b => .ok (a * b)
  div := fun a b => .ok (a / b)
  mod := fun a b => .ok (Arithmetic.mod a b)
  fmod := fun a b => .ok (Arithmetic.fmod a b)
  floor := fun a => .ok (Arithmetic.floor a)
  ceil := fun a => .ok (Arithmetic.ceil a)

namespace Numeric

variable {N : Type} [Numeric N]

@[inline] def two (exponent : Nat) : N := ofInt (Nat.pow 2 exponent)

@[inline] def isZero (a : N) : Bool := eq a (ofInt 0)

@[specialize] def power (exponent : N) : Except Fault N :=
  match toInt? exponent with
  | some value => if 0 ≤ value ∧ value ≤ 64 then .ok (two value.toNat) else .error .operand
  | none => .error .operand

@[specialize] def trunc (a : N) : Except Fault N := do
  if ← le (ofInt 0) a then floor a else ceil a

@[specialize] def plain (a : N) : Except Fault N := add a (ofInt 0)

end Numeric

end WasmLua.Exec
