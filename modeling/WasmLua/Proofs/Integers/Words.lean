import Mathlib
import WasmLua.Compile.Body
import WasmLua.Exec.Code

namespace WasmLua.Wasm.Word

open Exec (Trap)

variable {width : Nat}

def unary (op : IntUnary) (a : BitVec width) : BitVec width :=
  match op with
  | .clz => a.clz
  | .ctz => a.ctz
  | .popcnt => a.cpop

def binary (op : IntBinary) (a b : BitVec width) : Except Trap (BitVec width) :=
  match op with
  | .add => .ok (a + b)
  | .sub => .ok (a - b)
  | .mul => .ok (a * b)
  | .div .signed =>
    if b = 0 then .error .integerDivideByZero
    else if a = BitVec.intMin width ∧ b = -1 then .error .integerOverflow
    else .ok (a.sdiv b)
  | .div .unsigned => if b = 0 then .error .integerDivideByZero else .ok (a.udiv b)
  | .rem .signed => if b = 0 then .error .integerDivideByZero else .ok (a.srem b)
  | .rem .unsigned => if b = 0 then .error .integerDivideByZero else .ok (a.umod b)
  | .and => .ok (a &&& b)
  | .or => .ok (a ||| b)
  | .xor => .ok (a ^^^ b)
  | .shl => .ok (a <<< (b.toNat % width))
  | .shr .signed => .ok (a.sshiftRight (b.toNat % width))
  | .shr .unsigned => .ok (a >>> (b.toNat % width))
  | .rotl => .ok (a.rotateLeft (b.toNat % width))
  | .rotr => .ok (a.rotateRight (b.toNat % width))

def compare (op : IntCompare) (a b : BitVec width) : Bool :=
  match op with
  | .eq => a == b
  | .ne => a != b
  | .lt .signed => a.slt b
  | .lt .unsigned => a.ult b
  | .gt .signed => b.slt a
  | .gt .unsigned => b.ult a
  | .le .signed => a.sle b
  | .le .unsigned => a.ule b
  | .ge .signed => b.sle a
  | .ge .unsigned => b.ule a

def extend (bits : Nat) (a : BitVec width) : BitVec width := (a.setWidth bits).signExtend width

end WasmLua.Wasm.Word

namespace WasmLua.Exec

open Numeric

def answered {α β : Type} (represent : α → β) : Except Trap α → Except Fault β
  | .ok value => .ok (represent value)
  | .error trap => .error (.trap trap)

/-- What stands for a word: a number for 32 bits, a pair of halves for 64 bits. -/
inductive Held (N P : Type) where
  | number (value : N)
  | pair (value : P)
deriving DecidableEq, Repr

namespace Held

section Operations

variable {N P : Type} [Numeric N] [Pairing N P]

def truth (holds : Bool) : Held N P := .number (ofInt (if holds then 1 else 0))

def reshape : Wasm.Conversion → Held N P → Option (Except Fault (Held N P))
  | .wrap, .pair a => some (number <$> I64.wrap a)
  | .extend .signed, .number a => some (pair <$> I64.extendS a)
  | .extend .unsigned, .number a => some (pair <$> I64.extendU a)
  | .extend8 .i32, .number a => some (number <$> I32.extend8 a)
  | .extend8 .i64, .pair a => some (pair <$> I64.extend8 a)
  | .extend16 .i32, .number a => some (number <$> I32.extend16 a)
  | .extend16 .i64, .pair a => some (pair <$> I64.extend16 a)
  | .extend32, .pair a => some (pair <$> I64.extend32 a)
  | _, _ => none

def unary : Target.Unary → Held N P → Option (Except Fault (Held N P))
  | .intTest .i32, .number a => some (.ok (truth (isZero a)))
  | .intTest .i64, .pair a => some (truth <$> I64.isZero a)
  | .int .i32 op, .number a => some (number <$> I32.unary op a)
  | .int .i64 op, .pair a => some (pair <$> I64.unary op a)
  | .convert op, a => reshape op a
  | _, _ => none

def binary (zero : P) : Target.Binary → Held N P → Held N P → Option (Except Fault (Held N P))
  | .intCompare .i32 op, .number a, .number b => some (truth <$> I32.compare op a b)
  | .intCompare .i64 op, .pair a, .pair b => some (truth <$> I64.compare op a b)
  | .int .i32 op, .number a, .number b => some (number <$> I32.binary op a b)
  | .int .i64 op, .pair a, .pair b => some (pair <$> I64.binary zero op a b)
  | _, _, _ => none

def evaluate (zero : P) (op : Wasm.Op) (operands : List (Held N P)) : Option (Except Fault (Held N P)) :=
  match Compile.unaryOf? op, Compile.binaryOf? op, operands with
  | some (op, _), _, [a] => unary op a
  | none, some (op, _), [a, b] => binary zero op a b
  | _, _, _ => none

def word (a : BitVec 32) : Held N P := .number (ofInt a.toInt)

def long (a : BitVec 64) : Held N (Pair N) := .pair ⟨ofInt (a.toNat % 2 ^ 32 : Nat), ofInt (a.toNat / 2 ^ 32 : Nat)⟩

end Operations

def ofWord (a : BitVec 32) : Held Rat (Pair Rat) := .number (a.toInt : Rat)

def ofLong (a : BitVec 64) : Held Rat (Pair Rat) :=
  .pair ⟨(((a.toNat % 2 ^ 32 : Nat) : Int) : Rat), (((a.toNat / 2 ^ 32 : Nat) : Int) : Rat)⟩

def delivered {α : Type} (represent : α → Held Rat (Pair Rat)) : Except Trap α → Except Fault (Held Rat (Pair Rat))
  | .ok value => .ok (represent value)
  | .error trap => .error (.trap trap)

lemma delivered_answered {α : Type} {represent : α → Held Rat (Pair Rat)} {result : Except Trap α} :
    delivered represent result = answered represent result := by
  cases result <;> rfl

/-- What running code gets when numbers are values and pairs are what it makes. -/
def made : Held Value Made → Made
  | .number value => .held value
  | .pair value => value

section Running

variable {ω : Type} (shared : Shared (Execution ω) Value Made) {a b : Value} {x y : Held Value Made}
  {result : Except Fault (Held Value Made)}

lemma made_number (value : Except Fault Value) : made <$> (number <$> value) = Made.held <$> value := by
  cases value <;> rfl

lemma made_pair (value : Except Fault Made) : made <$> (pair <$> value) = value := by
  cases value <;> rfl

lemma made_truth (value : Except Fault Bool) : made <$> (truth <$> value) = Made.ofBool <$> value := by
  cases value <;> rfl

lemma reshape_made {negZero : Value} {zero : Made} {op : Wasm.Conversion} (stands : x.made = .held a)
    (taken : reshape op x = some result) : Value.reshape negZero zero op a = made <$> result := by
  unfold reshape at taken
  split at taken <;> cases taken
  all_goals
    cases stands
    first | exact (made_number _).symm | exact (made_pair _).symm

/-- The operations of running code on integers are those on held words. -/
lemma unary_made {op : Target.Unary} (stands : x.made = .held a) (taken : unary op x = some result) :
    Value.unary shared op a = Execution.ofExcept (made <$> result) := by
  cases op with
  | intTest type =>
    cases type <;> cases x <;> cases taken <;> cases stands
    · rfl
    · rw [made_truth]
      rfl
  | int type op =>
    cases type <;> cases x <;> cases taken <;> cases stands
    · rw [made_number]
      rfl
    · rw [made_pair]
      rfl
  | convert op =>
    rw [← reshape_made stands taken]
    cases op <;> first | rfl | cases taken
  | float | isNull => cases taken

lemma binary_made {op : Target.Binary} (first : x.made = .held a) (second : y.made = .held b)
    (taken : binary shared.zero op x y = some result) : Value.binary shared op a b = Execution.ofExcept (made <$> result) := by
  unfold binary at taken
  split at taken <;> cases taken
  all_goals
    cases first
    cases second
  · rw [made_truth]
    rfl
  · rw [made_truth]
    rfl
  · rw [made_number]
    rfl
  · rw [made_pair]
    rfl

end Running

end Held

end WasmLua.Exec
