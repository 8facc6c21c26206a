import WasmLua.Exec.Arithmetic
import WasmLua.Wasm.Op

/-! 32-bit integers, held as numbers from -2^31 up to 2^31. -/

namespace WasmLua.Exec.I32

open Numeric

variable {N : Type} [Numeric N]

@[inline] def unsigned (a : N) : Except Fault N := mod a (two 32)

@[specialize] def wrap (a : N) : Except Fault N := do
  let a ← mod a (two 32)
  if ← le (two 31) a then sub a (two 32) else plain a

def mergeBits (rule : Bool → Bool → Bool) : Nat → Nat → Nat → Nat → Nat
  | 0, _, _, _ => 0
  | count + 1, place, a, b =>
    (if rule (a % 2 == 1) (b % 2 == 1) then place else 0) + mergeBits rule count (2 * place) (a / 2) (b / 2)

def nibbleTable (rule : Bool → Bool → Bool) : Array Nat :=
  Array.ofFn fun index : Fin 256 => mergeBits rule 4 1 (index.val / 16) (index.val % 16)

def andTable : Array Nat := nibbleTable and
def orTable : Array Nat := nibbleTable or
def xorTable : Array Nat := nibbleTable xor

@[specialize] def nibble (table : Array Nat) (index : N) : Except Fault N :=
  match toInt? index with
  | some value =>
    if 0 ≤ value then
      match table[value.toNat]? with
      | some entry => .ok (ofInt entry)
      | none => .error .operand
    else .error .operand
  | none => .error .operand

@[specialize] def nibbles (table : Array Nat) : Nat → N → N → N → N → Except Fault N
  | 0, result, _, _, _ => .ok result
  | count + 1, result, place, a, b => do
    let low ← mod a (ofInt 16)
    let other ← mod b (ofInt 16)
    let value ← nibble table (← add (← mul low (ofInt 16)) other)
    let result ← add result (← mul value place)
    let a ← div (← sub a low) (ofInt 16)
    let b ← div (← sub b other) (ofInt 16)
    nibbles table count result (← mul place (ofInt 16)) a b

@[specialize] def bitwise (table : Array Nat) (a b : N) : Except Fault N := nibbles table 8 (ofInt 0) (ofInt 1) a b

@[specialize] def logic (table : Array Nat) (a b : N) : Except Fault N := do
  wrap (← bitwise table (← unsigned a) (← unsigned b))

@[specialize] def mul (a b : N) : Except Fault N := do
  let a ← unsigned a
  let b ← unsigned b
  let low ← mod a (two 16)
  let high ← div (← sub a low) (two 16)
  let upper ← Numeric.mul (← mod (← Numeric.mul high b) (two 16)) (two 16)
  wrap (← add (← Numeric.mul low b) upper)

@[specialize] def divS (a b : N) : Except Fault N := do
  if isZero b then .error (.trap .integerDivideByZero)
  else if eq a (ofInt (-2147483648)) && eq b (ofInt (-1)) then .error (.trap .integerOverflow)
  else plain (← trunc (← div a b))

@[specialize] def divU (a b : N) : Except Fault N := do
  if isZero b then .error (.trap .integerDivideByZero)
  else wrap (← floor (← div (← unsigned a) (← unsigned b)))

@[specialize] def remS (a b : N) : Except Fault N := do
  if isZero b then .error (.trap .integerDivideByZero)
  else plain (← fmod a b)

@[specialize] def remU (a b : N) : Except Fault N := do
  if isZero b then .error (.trap .integerDivideByZero)
  else wrap (← fmod (← unsigned a) (← unsigned b))

@[specialize] def shl (a b : N) : Except Fault N := do
  let count ← mod b (ofInt 32)
  let kept ← power (← sub (ofInt 32) count)
  wrap (← Numeric.mul (← mod a kept) (← power count))

@[specialize] def shrS (a b : N) : Except Fault N := do
  plain (← floor (← div a (← power (← mod b (ofInt 32)))))

@[specialize] def shrU (a b : N) : Except Fault N := do
  wrap (← floor (← div (← unsigned a) (← power (← mod b (ofInt 32)))))

@[specialize] def rotl (a b : N) : Except Fault N := do
  let count ← mod b (ofInt 32)
  let a ← unsigned a
  let top ← power (← sub (ofInt 32) count)
  let low ← mod a top
  wrap (← add (← Numeric.mul low (← power count)) (← div (← sub a low) top))

@[specialize] def rotr (a b : N) : Except Fault N := do
  rotl a (← sub (ofInt 32) (← mod b (ofInt 32)))

@[specialize] def clzFrom : Nat → N → N → Except Fault N
  | 0, _, count => .ok count
  | fuel + 1, a, count => do
    if ← lt a (two 31) then
      clzFrom fuel (← Numeric.mul a (ofInt 2)) (← add count (ofInt 1))
    else return count

def clzFuel : Nat := 1200

@[specialize] def clz (a : N) : Except Fault N := do
  let a ← unsigned a
  if isZero a then return ofInt 32 else clzFrom clzFuel a (ofInt 0)

@[specialize] def ctzFrom : Nat → N → N → Except Fault N
  | 0, _, count => .ok count
  | fuel + 1, a, count => do
    if isZero (← mod a (ofInt 2)) then
      ctzFrom fuel (← div a (ofInt 2)) (← add count (ofInt 1))
    else return count

@[specialize] def ctz (a : N) : Except Fault N := do
  let a ← unsigned a
  if isZero a then return ofInt 32 else ctzFrom 64 a (ofInt 0)

@[specialize] def popcntFrom : Nat → N → N → Except Fault N
  | 0, _, count => .ok count
  | fuel + 1, a, count => do
    if ← lt (ofInt 0) a then
      let bit ← mod a (ofInt 2)
      popcntFrom fuel (← div (← sub a bit) (ofInt 2)) (← add count bit)
    else return count

@[specialize] def popcnt (a : N) : Except Fault N := do popcntFrom 64 (← unsigned a) (ofInt 0)

@[specialize] def extend8 (a : N) : Except Fault N := do
  let a ← mod a (ofInt 256)
  if ← le (ofInt 128) a then sub a (ofInt 256) else return a

@[specialize] def extend16 (a : N) : Except Fault N := do
  let a ← mod a (two 16)
  if ← le (ofInt 32768) a then sub a (two 16) else return a

@[specialize] def unary (op : Wasm.IntUnary) (a : N) : Except Fault N :=
  match op with
  | .clz => clz a
  | .ctz => ctz a
  | .popcnt => popcnt a

@[specialize] def binary (op : Wasm.IntBinary) (a b : N) : Except Fault N :=
  match op with
  | .add => do wrap (← add a b)
  | .sub => do wrap (← sub a b)
  | .mul => mul a b
  | .div .signed => divS a b
  | .div .unsigned => divU a b
  | .rem .signed => remS a b
  | .rem .unsigned => remU a b
  | .and => logic andTable a b
  | .or => logic orTable a b
  | .xor => logic xorTable a b
  | .shl => shl a b
  | .shr .signed => shrS a b
  | .shr .unsigned => shrU a b
  | .rotl => rotl a b
  | .rotr => rotr a b

@[specialize] def ordered (op : Wasm.FloatCompare) (a b : N) : Except Fault Bool :=
  match op with
  | .eq => .ok (eq a b)
  | .ne => .ok !(eq a b)
  | .lt => lt a b
  | .gt => lt b a
  | .le => le a b
  | .ge => le b a

@[specialize] def compare (op : Wasm.IntCompare) (a b : N) : Except Fault Bool :=
  match op with
  | .eq => .ok (eq a b)
  | .ne => .ok !(eq a b)
  | .lt .signed => lt a b
  | .gt .signed => lt b a
  | .le .signed => le a b
  | .ge .signed => le b a
  | .lt .unsigned => do lt (← unsigned a) (← unsigned b)
  | .gt .unsigned => do lt (← unsigned b) (← unsigned a)
  | .le .unsigned => do le (← unsigned a) (← unsigned b)
  | .ge .unsigned => do le (← unsigned b) (← unsigned a)

end WasmLua.Exec.I32
