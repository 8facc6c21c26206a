import WasmLua.Binary.Reader

namespace WasmLua.Binary

open Reader
open Wasm (Instruction Op BlockType)

def inBodies : Op → Bool
  | .selectTyped | .tableGet | .tableSet | .refNull | .refIsNull | .refFunc => false
  | .convert (.extend8 _) | .convert (.extend16 _) | .convert .extend32 => false
  | _ => true

/-- What stands behind the code of an instruction. -/
inductive Immediate where
  | blockType (byte : UInt8)
  | index (value : UInt32)
  | i32 (value : Int32)
  | i64 (value : Int64)
  | f32 (bits : UInt32)
  | f64 (bits : UInt64)
  | reserved
deriving DecidableEq, Repr

def immediates (op : Op) : Reader (List Immediate) :=
  match op with
  | .block | .loop | .ifElse => do return [.blockType (← byte)]
  | .br | .brIf | .call | .localGet | .localSet | .localTee | .globalGet | .globalSet => do
    return [.index (← u32)]
  | .brTable => do
    let labels ← vector u32
    return .index (.ofNat labels.length) :: (labels ++ [← u32]).map .index
  | .callIndirect => do
    let type ← u32
    guard ((← byte) == 0)
    return [.index type, .reserved]
  | .load _ | .store _ => do
    let align ← u32
    return [.index align, .index (← u32)]
  | .memorySize | .memoryGrow => do
    guard ((← byte) == 0)
    return [.reserved]
  | .const (.int .i32) => do return [.i32 (← i32)]
  | .const (.int .i64) => do return [.i64 (← i64)]
  | .const (.float .f32) => do return [.f32 (.ofNat (← littleEndian 4))]
  | .const (.float .f64) => do return [.f64 (.ofNat (← littleEndian 8))]
  | _ => return []

def indexAt (given : List Immediate) (place : Nat) : UInt32 :=
  match given[place]? with
  | some (.index value) => value
  | _ => 0

def blockWord : List Immediate → UInt64
  | .blockType byte :: _ => if byte == 0x40 then BlockType.empty.encode else byte.toUInt64 ||| BlockType.special
  | _ => BlockType.special

def constantWord : List Immediate → UInt64
  | .i32 value :: _ => value.toInt64.toUInt64
  | .i64 value :: _ => value.toUInt64
  | .f32 bits :: _ => bits.toUInt64
  | .f64 bits :: _ => bits
  | _ => 0

def pack (op : Op) (given : List Immediate) : Except Fault Instruction :=
  match op with
  | .block | .loop | .ifElse => .ok (.withImmediate op (blockWord given))
  | .br | .brIf | .call | .localGet | .localSet | .localTee | .globalGet | .globalSet | .callIndirect =>
    .ok (.withImmediate op (indexAt given 0).toUInt64)
  | .brTable =>
    let count := (indexAt given 0).toNat
    .ok ⟨op.codes.1, (indexAt given (count + 1)).toUInt64,
      (List.range count).map fun place => Int64.ofNat (indexAt given (1 + place)).toNat⟩
  | .const _ => .ok (.withImmediate op (constantWord given))
  | .memorySize | .memoryGrow => .ok (.withImmediate op 0)
  | .load _ | .store _ =>
    .ok (.withImmediate op ((indexAt given 1).toUInt64 ||| (indexAt given 0).toUInt64 <<< 32))
  | _ => if given.isEmpty then .ok (.withImmediate op 0) else .error .malformed

def instruction (admits : Op → Bool) : Reader Instruction := do
  match Op.ofCode? (← byte) with
  | some op => if admits op then pack op (← immediates op) else malformed
  | none => malformed

def instructionsFrom : Nat → Bytes → Except Fault (List Instruction)
  | _, [] => .ok []
  | 0, _ :: _ => .error .malformed
  | fuel + 1, input => do
    let (first, rest) ← instruction inBodies input
    return first :: (← instructionsFrom fuel rest)

def instructions (code : Bytes) : Except Fault (List Instruction) := instructionsFrom code.length code

def inConstants : Op → Bool
  | .const _ | .globalGet | .endBlock => true
  | _ => false

def constantFrom : Nat → Bytes → Except Fault (List Instruction × Bytes)
  | 0, _ => .error .malformed
  | fuel + 1, input => do
    let (first, rest) ← instruction inConstants input
    if first.op? == some .endBlock then return ([first], rest)
    let (more, rest) ← constantFrom fuel rest
    return (first :: more, rest)

def constant : Reader (List Instruction) := fun input => constantFrom (input.length + 1) input

end WasmLua.Binary
