import Std.Data.HashMap
import WasmLua.Exec.Value

namespace WasmLua.Exec

structure Memory where
  data : Std.HashMap Number Number
  pages : Number
  size : Number
  maximum : Number

namespace Memory

open Arithmetic

section Words

variable {N : Type} [Arithmetic N]

@[specialize] def effective (address : N) (offset : UInt32) : N := unsigned address + ofInt offset.toNat

@[specialize] def join (b0 b1 b2 b3 : N) : N := b0 + b1 * ofInt 256 + b2 * two 16 + b3 * two 24

@[specialize] def cut (value : N) : N × N :=
  let low := mod value (ofInt 256)
  (low, (value - low) / ofInt 256)

@[specialize] def split (value : N) : N × N × N × N :=
  let (b0, rest) := cut value
  let (b1, rest) := cut rest
  let (b2, b3) := cut rest
  (b0, b1, b2, b3)

end Words

def empty (pages maximum : Number) : Memory := ⟨∅, pages, pages * .ofInt Wasm.pageSize, maximum⟩

def byte (memory : Memory) (address : Number) : Number := memory.data.getD address (.ofInt 0)

def setByte (address value : Number) (memory : Memory) : Memory :=
  { memory with data := memory.data.insert address value }

def place (size address : Number) (offset : UInt32) (width : Nat) : Except Fault Number :=
  let start := effective address offset
  if size.lt (start + .ofInt width) then .error (.trap .outOfBoundsMemory) else .ok start

def byteAt (memory : Memory) (start : Number) (index : Nat) : Number :=
  memory.byte (if index = 0 then start else start + .ofInt index)

def read16 (memory : Memory) (start : Number) : Number := memory.byteAt start 0 + memory.byteAt start 1 * .ofInt 256

def read32 (memory : Memory) (start : Number) : Number :=
  join (memory.byteAt start 0) (memory.byteAt start 1) (memory.byteAt start 2) (memory.byteAt start 3)

def read64 (memory : Memory) (start : Number) : Pair Number := ⟨memory.read32 start, memory.read32 (start + .ofInt 4)⟩

def write16 (start value : Number) (memory : Memory) : Memory :=
  let (b0, b1) := cut (value % two 16)
  setByte (start + .ofInt 1) b1 (setByte start b0 memory)

def write32 (start value : Number) (memory : Memory) : Memory :=
  let (b0, b1, b2, b3) := split value
  setByte (start + .ofInt 3) b3 (setByte (start + .ofInt 2) b2 (setByte (start + .ofInt 1) b1 (setByte start b0 memory)))

def write64 (start : Number) (value : Pair Number) (memory : Memory) : Memory :=
  write32 (start + .ofInt 4) value.high (write32 start value.low memory)

def signed (bits : Nat) (sign : Wasm.Sign) (value : Number) : Number :=
  match sign with
  | .unsigned => value
  | .signed => if (two (bits - 1) : Number).le value then value - two bits else value

def loadNarrow (memory : Memory) (width : Wasm.Width) (sign : Wasm.Sign) (address : Number) (offset : UInt32) : Except Fault Number :=
  match width with
  | .w8 => do return signed 8 sign (memory.byte (← place memory.size address offset 1))
  | .w16 => do return signed 16 sign (memory.read16 (← place memory.size address offset 2))
  | .w32 => do
    let word := memory.read32 (← place memory.size address offset 4)
    match sign with
    | .signed => I32.wrap word
    | .unsigned => return word

def pairOf (word : Pair Number) : Made := .fresh (.number word.low) (.number word.high)

def load (memory : Memory) (negZero : Value) (access : Wasm.Load) (address : Number) (offset : UInt32) : Except Fault Made :=
  match access with
  | .full (.int .i32) => do
    let word := memory.read32 (← place memory.size address offset 4)
    return .held (.number (← I32.wrap word))
  | .full (.int .i64) => do return pairOf (memory.read64 (← place memory.size address offset 8))
  | .full (.float .f32) => do
    let word := memory.read32 (← place memory.size address offset 4)
    return .held (← Conversion.ofBits32 negZero (.number word))
  | .full (.float .f64) => do
    let word := memory.read64 (← place memory.size address offset 8)
    return .held (← Conversion.ofBits64 negZero (pairOf word))
  | .narrow .i32 width sign => do
    return .held (.number (← memory.loadNarrow width sign address offset))
  | .narrow .i64 width sign => do
    let value ← memory.loadNarrow width sign address offset
    match sign with
    | .signed => I64.extendS (Value.number value)
    | .unsigned => return pairOf ⟨value, .ofInt 0⟩

def writing (start : Number) (write : Memory → Memory) : Except Fault (Memory → Memory) :=
  if start.isNaN then .error .place else .ok write

def byteOf (value : Value) : Except Fault Number := do
  (← Numeric.mod value (.ofInt 256)).toNumber

def storeNarrow (size : Number) (width : Wasm.Width) (address : Number) (offset : UInt32)
    (value : Value) : Except Fault (Memory → Memory) :=
  match width with
  | .w8 => do
    let start ← place size address offset 1
    let value ← byteOf value
    writing start (setByte start value)
  | .w16 => do
    let start ← place size address offset 2
    let value ← value.toNumber
    writing start (write16 start value)
  | .w32 => do
    let start ← place size address offset 4
    let value ← value.toNumber
    writing start (write32 start (unsigned value))

def wordOf (value : Made) : Except Fault (Pair Number) := do
  let (low, high) ← value.halves
  return ⟨← low.toNumber, ← high.toNumber⟩

def store (size : Number) (access : Wasm.Store) (address : Number) (offset : UInt32) (value : Value) : Except Fault (Memory → Memory) :=
  match access with
  | .full (.int .i32) => storeNarrow size .w32 address offset value
  | .full (.int .i64) => do
    let start ← place size address offset 8
    let word ← wordOf (.held value)
    writing start (write64 start word)
  | .full (.float .f32) => do
    let bits ← Conversion.bits32 value
    storeNarrow size .w32 address offset bits
  | .full (.float .f64) => do
    let bits : Made ← Conversion.bits64 value
    let start ← place size address offset 8
    let word ← wordOf bits
    writing start (write64 start word)
  | .narrow .i32 width => storeNarrow size width address offset value
  | .narrow .i64 width => do
    let (low, _) ← value.halves
    storeNarrow size width address offset low

def grow (memory : Memory) (delta : Number) : Number × Memory :=
  let pages := memory.pages + unsigned delta
  if memory.maximum.lt pages then (.ofInt (-1), memory)
  else (memory.pages, { memory with pages, size := pages * .ofInt Wasm.pageSize })

def steps (first last : Number) : Nat :=
  match (last - first).floor.toInt? with
  | some distance => (distance + 1).toNat
  | none => 0

def fillFrom (value : Number) : Nat → Number → Memory → Memory
  | 0, _, memory => memory
  | count + 1, start, memory => fillFrom value count (start + .ofInt 1) (setByte start value memory)

def fill (size target : Number) (value : Value) (count : Number) : Except Fault (Memory → Memory) := do
  let target := unsigned target
  let count := unsigned count
  if size.lt (target + count) then throw (.trap .outOfBoundsMemory)
  let value ← byteOf value
  return fillFrom value (steps target (target + count - .ofInt 1)) target

def copyByte (other : Option Memory) (target source : Number) (memory : Memory) : Memory :=
  match (other.getD memory).data[source]? with
  | some value => setByte target value memory
  | none => { memory with data := memory.data.erase target }

def copyUp (other : Option Memory) (target source : Number) : Nat → Nat → Memory → Memory
  | _, 0, memory => memory
  | index, count + 1, memory =>
    copyUp other target source (index + 1) count (copyByte other (target + .ofInt index) (source + .ofInt index) memory)

def copyDown (other : Option Memory) (target source : Number) : Nat → Number → Memory → Memory
  | 0, _, memory => memory
  | count + 1, index, memory =>
    copyDown other target source count (index - .ofInt 1) (copyByte other (target + index) (source + index) memory)

def copyFrom (other : Option Memory) (size target source count : Number) : Except Fault (Memory → Memory) :=
  let target := unsigned target
  let source := unsigned source
  let count := unsigned count
  if (other.elim size Memory.size).lt (source + count) || size.lt (target + count) then
    .error (.trap .outOfBoundsMemory)
  else
    let last := count - .ofInt 1
    let bytes := steps (.ofInt 0) last
    if target.le source then .ok (copyUp other target source 0 bytes)
    else if bytes = 0 then .ok id
    else writing target (copyDown other target source bytes last)

def copy (size target source count : Number) : Except Fault (Memory → Memory) := copyFrom none size target source count

def check (size offset : Number) (length : Nat) : Except Fault Unit :=
  if size.lt (unsigned offset + .ofInt length) then .error (.trap .outOfBoundsMemory) else .ok ()

def writeFrom (base : Number) : Nat → Bytes → Memory → Memory
  | _, [], memory => memory
  | index, first :: rest, memory =>
    writeFrom base (index + 1) rest (setByte (base + .ofInt index) (.ofInt first.toNat) memory)

def init (offset : Number) (bytes : Bytes) : Except Fault (Memory → Memory) :=
  let base := unsigned offset - .ofInt 1
  if bytes.isEmpty then .ok id else writing base (writeFrom base 1 bytes)

end Memory

end WasmLua.Exec
