import WasmLua.Exec.Conversion
import WasmLua.Number.Literal

namespace WasmLua.Exec

open Conversion

inductive Owner where
  | known (id : Nat)
  | fieldless (settable : Bool)
  | barred
deriving DecidableEq, Repr

inductive Callable where
  | host (id : Nat)
  | defined (owner : Owner) (function : Nat)
  | unbound (function : Nat)
  | scripted (id : Nat)
deriving DecidableEq, Repr

/-- A pair is known by its identity: two pairs with the same halves are different values. So is a
reference, by the instance and the function that it belongs to. -/
inductive Value where
  | null
  | bool (value : Bool)
  | number (value : Number)
  | text (value : Bytes)
  | pair (id : Nat) (low high : Value)
  | ref (owner function : Nat) (key : Bytes) (call : Callable)
  | function (call : Callable)
  | object (address : Nat)
deriving DecidableEq, Repr

instance : Inhabited Value := ⟨.null⟩

namespace Value

def kind : Value → String
  | .null => "nil"
  | .bool _ => "boolean"
  | .number _ => "number"
  | .text _ => "string"
  | .pair _ _ _ => "table"
  | .ref _ _ _ _ => "table"
  | .function _ => "function"
  | .object _ => "table"

def ofInt (value : Int) : Value := .number (.ofInt value)

def ofBool (value : Bool) : Value := ofInt (if value then 1 else 0)

def zeroPair : Value := .pair 0 (ofInt 0) (ofInt 0)

def toNumber : Value → Except Fault Number
  | .number value => .ok value
  | .text value =>
    match Literal.numeral? value with
    | some value => .ok value
    | none => .error .operand
  | _ => .error .operand

def halves : Value → Except Fault (Value × Value)
  | .pair _ low high => .ok (low, high)
  | .ref _ _ _ _ => .ok (.null, .null)
  | .object _ => .ok (.null, .null)
  | .text _ => .ok (.null, .null)
  | _ => .error .operand

def same : Value → Value → Bool
  | .number a, .number b => a.eq b
  | a, b => a == b

def isZero (value : Value) : Bool := value.same (ofInt 0)

def lt : Value → Value → Except Fault Bool
  | .number a, .number b => .ok (a.lt b)
  | .text a, .text b => .ok (a.before b)
  | _, _ => .error .operand

def le : Value → Value → Except Fault Bool
  | .number a, .number b => .ok (a.le b)
  | .text a, .text b => .ok !(b.before a)
  | _, _ => .error .operand

def arith (plain signed : Number → Number → Number) : Value → Value → Except Fault Value
  | .number a, .number b => .ok (.number (plain a b))
  | a, b => do return .number (signed (← a.toNumber) (← b.toNumber))

def map (operation : Number → Number) (a : Value) : Except Fault Value := do
  return .number (operation (← a.toNumber))

def toInt? : Value → Option Int
  | .number value => value.toInt?
  | _ => none

def neg : Value → Except Fault Value
  | .number a => .ok (.number (-a))
  | a =>
    match a.toNumber with
    | .ok value => .ok (.number (Number.Signed.neg value))
    | .error _ => .error .negation

end Value

instance : FloatNumeric Value where
  ofInt := Value.ofInt
  toInt? := Value.toInt?
  eq := Value.same
  lt := Value.lt
  le := Value.le
  add := Value.arith (· + ·) Number.Signed.add
  sub := Value.arith (· - ·) Number.Signed.sub
  mul := Value.arith (· * ·) Number.Signed.mul
  div := Value.arith (· / ·) Number.Signed.div
  mod := Value.arith (· % ·) Number.Signed.mod
  fmod := fun a b => do return .number (Number.fmod (← a.toNumber) (← b.toNumber))
  floor := Value.map Number.floor
  ceil := Value.map Number.ceil
  ofNumber := Value.number
  neg := Value.neg
  abs := Value.map Number.abs
  sqrt := Value.map Number.sqrt
  frexp := fun a => do return (← a.toNumber).frexp
  ldexp := fun a exponent => do return (← a.toNumber).ldexp exponent

inductive Made where
  | held (value : Value)
  | fresh (low high : Value)
deriving DecidableEq, Repr

namespace Made

def halves : Made → Except Fault (Value × Value)
  | .held value => value.halves
  | .fresh low high => .ok (low, high)

def ofBool (value : Bool) : Made := .held (.ofBool value)

end Made

instance : Pairing Value Made where
  pack := Made.fresh
  low := fun made => Prod.fst <$> made.halves
  high := fun made => Prod.snd <$> made.halves

namespace Value

def integer (zero : Made) (type : Wasm.IntType) (op : Wasm.IntBinary) (a b : Value) : Except Fault Made :=
  match type with
  | .i32 => Made.held <$> I32.binary op a b
  | .i64 => I64.binary zero op (.held a) (.held b)

section Operations

variable {M : Type → Type} [Monad M] [MonadLiftT (Except Fault) M]

def reshape (negZero : Value) (zero : Made) (op : Wasm.Conversion) (a : Value) : Except Fault Made :=
  match op with
  | .wrap => Made.held <$> I64.wrap (Made.held a)
  | .trunc .i32 _ sign => Made.held <$> toI32 sign a
  | .trunc .i64 _ sign => toI64 sign a
  | .truncSat .i32 _ sign => Made.held <$> saturateI32 sign a
  | .truncSat .i64 _ sign => saturateI64 zero sign a
  | .extend .signed => I64.extendS a
  | .extend .unsigned => I64.extendU a
  | .toBits .i32 => Made.held <$> bits32 a
  | .toBits .i64 => bits64 a
  | .ofBits .i32 => Made.held <$> ofBits32 negZero a
  | .ofBits .i64 => Made.held <$> ofBits64 negZero (Made.held a)
  | .extend8 .i32 => Made.held <$> I32.extend8 a
  | .extend8 .i64 => I64.extend8 (Made.held a)
  | .extend16 .i32 => Made.held <$> I32.extend16 a
  | .extend16 .i64 => I64.extend16 (Made.held a)
  | .extend32 => I64.extend32 (Made.held a)
  | .convert _ _ _ => .ok (.held a)
  | .demote => .ok (.held a)
  | .promote => .ok (.held a)

def unary (shared : Shared M Value Made) (op : Target.Unary) (a : Value) : M Made :=
  match op with
  | .intTest .i32 => pure (Made.ofBool a.isZero)
  | .intTest .i64 => (Made.ofBool <$> I64.isZero (Made.held a) : Except Fault Made)
  | .int .i32 op => (Made.held <$> I32.unary op a : Except Fault Made)
  | .int .i64 op => (I64.unary op (Made.held a) : Except Fault Made)
  | .float type op => Made.held <$> shared.floatUnary type op a
  | .isNull => pure (Made.ofBool (a == .null))
  | .convert (.convert type .i32 sign) => Made.held <$> shared.ofI32 type sign a
  | .convert (.convert type .i64 sign) => Made.held <$> shared.ofI64 type sign (Made.held a)
  | .convert .demote => Made.held <$> shared.fround a
  | .convert op => (reshape shared.negZero shared.zero op a : Except Fault Made)

def binary (shared : Shared M Value Made) (op : Target.Binary) (a b : Value) : M Made :=
  match op with
  | .intCompare .i32 op => (Made.ofBool <$> I32.compare op a b : Except Fault Made)
  | .intCompare .i64 op =>
    (Made.ofBool <$> I64.compare op (Made.held a) (Made.held b) : Except Fault Made)
  | .floatCompare _ op => (Made.ofBool <$> I32.ordered op a b : Except Fault Made)
  | .int type op => (integer shared.zero type op a b : Except Fault Made)
  | .float type op => Made.held <$> shared.floatBinary type op a b

end Operations

end Value

end WasmLua.Exec
