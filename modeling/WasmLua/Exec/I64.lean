import WasmLua.Exec.I32

/-! 64-bit integers, held as pairs of unsigned 32-bit halves. -/

namespace WasmLua.Exec

structure Pair (N : Type) where
  low : N
  high : N
deriving DecidableEq, Repr

class Pairing (N : outParam Type) (P : Type) where
  pack : N → N → P
  low : P → Except Fault N
  high : P → Except Fault N

instance {N : Type} : Pairing N (Pair N) where
  pack := Pair.mk
  low := fun pair => .ok pair.low
  high := fun pair => .ok pair.high

namespace I64

open Numeric Pairing

variable {N P : Type} [Numeric N] [Pairing N P]

@[specialize] def add (a b : P) : Except Fault P := do
  let lower ← Numeric.add (← low a) (← low b)
  let upper ← Numeric.add (← high a) (← high b)
  if ← le (two 32) lower then
    return pack (← Numeric.sub lower (two 32)) (← mod (← Numeric.add upper (ofInt 1)) (two 32))
  else return pack lower (← mod upper (two 32))

@[specialize] def sub (a b : P) : Except Fault P := do
  let lower ← Numeric.sub (← low a) (← low b)
  let upper ← Numeric.sub (← high a) (← high b)
  if ← lt lower (ofInt 0) then
    return pack (← Numeric.add lower (two 32)) (← plain (← mod (← Numeric.sub upper (ofInt 1)) (two 32)))
  else return pack lower (← plain (← mod upper (two 32)))

@[specialize] def limbs (a : N) : Except Fault (N × N) := do
  let lower ← mod a (two 16)
  return (lower, ← div (← Numeric.sub a lower) (two 16))

@[specialize] def carry (a next : N) : Except Fault (N × N) := do
  let lower ← mod a (two 16)
  return (lower, ← Numeric.add next (← div (← Numeric.sub a lower) (two 16)))

@[specialize] def mul (a b : P) : Except Fault P := do
  let (a0, a1) ← limbs (← low a)
  let (a2, a3) ← limbs (← high a)
  let (b0, b1) ← limbs (← low b)
  let (b2, b3) ← limbs (← high b)
  let c0 ← Numeric.mul a0 b0
  let c1 ← Numeric.add (← Numeric.mul a0 b1) (← Numeric.mul a1 b0)
  let c2 ← Numeric.add (← Numeric.add (← Numeric.mul a0 b2) (← Numeric.mul a1 b1)) (← Numeric.mul a2 b0)
  let c3 ← Numeric.add (← Numeric.add (← Numeric.add (← Numeric.mul a0 b3) (← Numeric.mul a1 b2)) (← Numeric.mul a2 b1))
    (← Numeric.mul a3 b0)
  let (r0, c1) ← carry c0 c1
  let (r1, c2) ← carry c1 c2
  let (r2, c3) ← carry c2 c3
  let r3 ← mod c3 (two 16)
  return pack (← Numeric.add r0 (← Numeric.mul r1 (two 16))) (← Numeric.add r2 (← Numeric.mul r3 (two 16)))

@[specialize] def neg (zero a : P) : Except Fault P := sub zero a

@[specialize] def isNegative (a : P) : Except Fault Bool := do le (two 31) (← high a)

@[specialize] def isZero (a : P) : Except Fault Bool := do
  if Numeric.isZero (← low a) then return Numeric.isZero (← high a) else return false

@[specialize] def ltU (a b : P) : Except Fault Bool := do
  if ← lt (← high a) (← high b) then return true
  else if eq (← high a) (← high b) then lt (← low a) (← low b)
  else return false

@[specialize] def signedHalf (a : N) : Except Fault N := do
  if ← le (two 31) a then Numeric.sub a (two 32) else return a

@[specialize] def ltS (a b : P) : Except Fault Bool := do
  let upper ← high a
  let other ← high b
  let upper ← signedHalf upper
  let other ← signedHalf other
  if ← lt upper other then return true
  else if eq upper other then lt (← low a) (← low b)
  else return false

@[specialize] def split (a : N) : Except Fault P := do
  let upper ← floor (← div a (two 32))
  return pack (← Numeric.sub a (← Numeric.mul upper (two 32))) upper

structure Division (P : Type) where
  quotient : P
  rest : P

@[specialize] def divideSmall (a b : Pair N) : Except Fault (Division P) := do
  let x ← Numeric.add (← Numeric.mul a.high (two 32)) a.low
  let y ← Numeric.add (← Numeric.mul b.high (two 32)) b.low
  let q ← floor (← div x y)
  let r ← Numeric.sub x (← Numeric.mul q y)
  if ← lt r (ofInt 0) then
    return ⟨← split (← Numeric.sub q (ofInt 1)), ← split (← Numeric.add r y)⟩
  else if ← le y r then
    return ⟨← split (← Numeric.add q (ofInt 1)), ← split (← Numeric.sub r y)⟩
  else return ⟨← split q, ← split r⟩

@[specialize] def takeOff (b rest : Pair N) : Except Fault (Pair N) := do
  let lower ← Numeric.sub rest.low b.low
  let upper ← Numeric.sub rest.high b.high
  if ← lt lower (ofInt 0) then
    return ⟨← Numeric.add lower (two 32), ← mod (← Numeric.sub upper (ofInt 1)) (two 32)⟩
  else return ⟨lower, ← mod upper (two 32)⟩

@[specialize] def fits (lost : Bool) (b rest : Pair N) : Except Fault Bool := do
  if lost then return true
  else if ← lt b.high rest.high then return true
  else if eq rest.high b.high then le b.low rest.low
  else return false

@[specialize] def divideStep (a b : Pair N) (bit : Nat) (state : Division (Pair N)) : Except Fault (Division (Pair N)) := do
  let upper := decide (32 ≤ bit)
  let weight : N := two (bit % 32)
  let down ← mod (← floor (← div (if upper then a.high else a.low) weight)) (ofInt 2)
  let rest := state.rest
  let lost ← le (two 31) rest.high
  let top ← Numeric.add (← mod (← Numeric.mul rest.high (ofInt 2)) (two 32)) (← floor (← div rest.low (two 31)))
  let bottom ← Numeric.add (← mod (← Numeric.mul rest.low (ofInt 2)) (two 32)) down
  if ← fits lost b ⟨bottom, top⟩ then
    let rest ← takeOff b ⟨bottom, top⟩
    let quotient := state.quotient
    if upper then
      return ⟨{ quotient with high := ← Numeric.add quotient.high weight }, rest⟩
    else return ⟨{ quotient with low := ← Numeric.add quotient.low weight }, rest⟩
  else return ⟨state.quotient, ⟨bottom, top⟩⟩

@[specialize] def divideFrom (a b : Pair N) : Nat → Division (Pair N) → Except Fault (Division (Pair N))
  | 0, state => .ok state
  | count + 1, state => do divideFrom a b count (← divideStep a b count state)

@[specialize] def divideLong (a b : Pair N) : Except Fault (Division P) := do
  let zero : Pair N := ⟨ofInt 0, ofInt 0⟩
  let state ← divideFrom a b 64 ⟨zero, zero⟩
  return ⟨pack state.quotient.low state.quotient.high, pack state.rest.low state.rest.high⟩

@[specialize] def isSmall (upper : N) : Except Fault Bool := lt upper (ofInt 1048576)

@[specialize] def divide (a b : P) : Except Fault (Division P) := do
  let a : Pair N := ⟨← low a, ← high a⟩
  let b : Pair N := ⟨← low b, ← high b⟩
  if ← isSmall a.high then
    if ← isSmall b.high then divideSmall a b else divideLong a b
  else divideLong a b

@[specialize] def divU (a b : P) : Except Fault P := do
  if ← isZero b then .error (.trap .integerDivideByZero) else return (← divide a b).quotient

@[specialize] def remU (a b : P) : Except Fault P := do
  if ← isZero b then .error (.trap .integerDivideByZero) else return (← divide a b).rest

@[specialize] def magnitude (zero : P) (negative : Bool) (a : P) : Except Fault P :=
  if negative then neg zero a else .ok a

@[specialize] def overflows (a b : P) : Except Fault Bool := do
  if !Numeric.isZero (← low a) then return false
  else if !eq (← high a) (two 31) then return false
  else if !eq (← low b) (← Numeric.sub (two 32) (ofInt 1)) then return false
  else return eq (← high b) (← Numeric.sub (two 32) (ofInt 1))

@[specialize] def divS (zero a b : P) : Except Fault P := do
  if ← isZero b then .error (.trap .integerDivideByZero)
  else if ← overflows a b then .error (.trap .integerOverflow)
  else
    let first ← isNegative a
    let second ← isNegative b
    let quotient := (← divide (← magnitude zero first a) (← magnitude zero second b)).quotient
    magnitude zero (first != second) quotient

@[specialize] def remS (zero a b : P) : Except Fault P := do
  if ← isZero b then .error (.trap .integerDivideByZero)
  else
    let negative ← isNegative a
    let a ← magnitude zero negative a
    let rest := (← divide a (← magnitude zero (← isNegative b) b)).rest
    magnitude zero negative rest

@[specialize] def bitwise (table : Array Nat) (a b : P) : Except Fault P := do
  return pack (← I32.bitwise table (← low a) (← low b)) (← I32.bitwise table (← high a) (← high b))

@[specialize] def count (b : P) : Except Fault N := do mod (← low b) (ofInt 64)

@[specialize] def shl (a : P) (k : N) : Except Fault P := do
  if Numeric.isZero k then return a
  else
    let lower ← low a
    let upper ← high a
    if ← le (ofInt 32) k then
      let kept ← mod lower (← power (← Numeric.sub (ofInt 64) k))
      return pack (ofInt 0) (← Numeric.mul kept (← power (← Numeric.sub k (ofInt 32))))
    else
      let top ← power (← Numeric.sub (ofInt 32) k)
      let kept ← mod lower top
      let carry ← div (← Numeric.sub lower kept) top
      let factor ← power k
      return pack (← Numeric.mul kept factor) (← Numeric.add (← Numeric.mul (← mod upper top) factor) carry)

@[specialize] def shiftDown (lower upper k : N) : Except Fault (N × N) := do
  let factor ← power k
  let moved ← mod upper factor
  let lower ← floor (← div lower factor)
  return (← Numeric.add lower (← Numeric.mul moved (← power (← Numeric.sub (ofInt 32) k))), moved)

@[specialize] def shrU (a : P) (k : N) : Except Fault P := do
  if Numeric.isZero k then return a
  else
    let lower ← low a
    let upper ← high a
    if ← le (ofInt 32) k then
      return pack (← floor (← div upper (← power (← Numeric.sub k (ofInt 32))))) (ofInt 0)
    else
      let (result, moved) ← shiftDown lower upper k
      return pack result (← div (← Numeric.sub upper moved) (← power k))

@[specialize] def shrS (a : P) (k : N) : Except Fault P := do
  if Numeric.isZero k then return a
  else
    let lower ← low a
    let upper ← high a
    let signed ← signedHalf upper
    if ← le (ofInt 32) k then
      let fill ←
        if ← lt signed (ofInt 0) then Numeric.sub (two 32) (ofInt 1) else .ok (ofInt 0)
      let moved ← floor (← div signed (← power (← Numeric.sub k (ofInt 32))))
      return pack (← mod moved (two 32)) fill
    else
      let (result, _) ← shiftDown lower upper k
      return pack result (← mod (← floor (← div signed (← power k))) (two 32))

@[specialize] def join (left right : P) : Except Fault P := do
  return pack (← Numeric.add (← low left) (← low right)) (← Numeric.add (← high left) (← high right))

@[specialize] def rotl (a : P) (k : N) : Except Fault P := do
  if Numeric.isZero k then return a
  else join (← shl a k) (← shrU a (← Numeric.sub (ofInt 64) k))

@[specialize] def rotr (a : P) (k : N) : Except Fault P := do
  if Numeric.isZero k then return a
  else join (← shl a (← Numeric.sub (ofInt 64) k)) (← shrU a k)

@[inline] def small (a : N) : P := pack a (ofInt 0)

@[specialize] def unary (op : Wasm.IntUnary) (a : P) : Except Fault P :=
  match op with
  | .clz => do
    if Numeric.isZero (← high a) then
      return small (← Numeric.add (ofInt 32) (← I32.clz (← low a)))
    else return small (← I32.clz (← high a))
  | .ctz => do
    if Numeric.isZero (← low a) then
      return small (← Numeric.add (ofInt 32) (← I32.ctz (← high a)))
    else return small (← I32.ctz (← low a))
  | .popcnt => do
    return small (← Numeric.add (← I32.popcnt (← low a)) (← I32.popcnt (← high a)))

@[specialize] def binary (zero : P) (op : Wasm.IntBinary) (a b : P) : Except Fault P :=
  match op with
  | .add => add a b
  | .sub => sub a b
  | .mul => mul a b
  | .div .signed => divS zero a b
  | .div .unsigned => divU a b
  | .rem .signed => remS zero a b
  | .rem .unsigned => remU a b
  | .and => bitwise I32.andTable a b
  | .or => bitwise I32.orTable a b
  | .xor => bitwise I32.xorTable a b
  | .shl => do shl a (← count b)
  | .shr .signed => do shrS a (← count b)
  | .shr .unsigned => do shrU a (← count b)
  | .rotl => do rotl a (← count b)
  | .rotr => do rotr a (← count b)

@[specialize] def same (a b : P) : Except Fault Bool := do
  if eq (← low a) (← low b) then return eq (← high a) (← high b) else return false

@[specialize] def compare (op : Wasm.IntCompare) (a b : P) : Except Fault Bool :=
  match op with
  | .eq => same a b
  | .ne => not <$> same a b
  | .lt .signed => ltS a b
  | .lt .unsigned => ltU a b
  | .gt .signed => ltS b a
  | .gt .unsigned => ltU b a
  | .le .signed => not <$> ltS b a
  | .le .unsigned => not <$> ltU b a
  | .ge .signed => not <$> ltS a b
  | .ge .unsigned => not <$> ltU a b

@[specialize] def extendS (a : N) : Except Fault P := do
  if ← lt a (ofInt 0) then
    return pack (← Numeric.add a (two 32)) (← Numeric.sub (two 32) (ofInt 1))
  else return small (← plain a)

@[specialize] def extendU (a : N) : Except Fault P := do return small (← mod a (two 32))

@[specialize] def wrap (a : P) : Except Fault N := do I32.wrap (← low a)

@[specialize] def extend8 (a : P) : Except Fault P := do extendS (← I32.extend8 (← low a))
@[specialize] def extend16 (a : P) : Except Fault P := do extendS (← I32.extend16 (← low a))
@[specialize] def extend32 (a : P) : Except Fault P := do extendS (← I32.wrap (← low a))

@[specialize] def ofInteger (a : N) : Except Fault P := do
  let upper ← floor (← div a (two 32))
  return pack (← Numeric.sub a (← Numeric.mul upper (two 32))) (← plain (← mod upper (two 32)))

end I64

end WasmLua.Exec
