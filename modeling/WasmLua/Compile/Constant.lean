import WasmLua.Compile.Error
import WasmLua.Target.Program

namespace WasmLua.Compile

open Target (Constant Arith)

structure TypedConstant where
  type : Wasm.ValueType
  value : Constant
deriving DecidableEq, Repr

namespace Constant

def arith? : Wasm.IntBinary → Option Arith
  | .add => some .add
  | .sub => some .sub
  | .mul => some .mul
  | _ => none

def combine (name : String) (type : Wasm.IntType) (op : Arith) (stack : List TypedConstant) : Except ConstantFault (List TypedConstant) :=
  match stack with
  | b :: a :: rest =>
    if a.type != type.valueType then throw (.operandType name a.type)
    else if b.type != type.valueType then throw (.operandType name b.type)
    else return ⟨type.valueType, .arith type op a.value b.value⟩ :: rest
  | _ => throw (.underflow name)

def step (globals : List Wasm.Global) (stack : List TypedConstant) (instruction : Wasm.Instruction) :
    Except ConstantFault (List TypedConstant) :=
  let name := instruction.opText
  match instruction.op? with
  | some .globalGet =>
    match globals[instruction.index.toNat]? with
    | none => throw (.globalIndex instruction.index)
    | some global => return ⟨global.type.type, .global instruction.index.toNat⟩ :: stack
  | some (.const (.int .i32)) => return ⟨.i32, .atom (.i32 instruction.i32)⟩ :: stack
  | some (.const (.int .i64)) => return ⟨.i64, .atom (.i64 instruction.i64)⟩ :: stack
  | some (.const (.float .f32)) => return ⟨.f32, .atom (.float instruction.f32)⟩ :: stack
  | some (.const (.float .f64)) => return ⟨.f64, .atom (.float instruction.f64)⟩ :: stack
  | some .refNull => return ⟨instruction.valueType, .atom .null⟩ :: stack
  | some .refFunc => return ⟨.funcref, .atom (.ref instruction.index)⟩ :: stack
  | some (.intBinary type op) =>
    match arith? op with
    | some op => combine name type op stack
    | none => throw (.unexpected name)
  | some .endBlock => return stack
  | _ => throw (.unexpected name)

def ofBody (globals : List Wasm.Global) (body : List Wasm.Instruction) (wanted : Wasm.ValueType) :
    Except ConstantFault Constant := do
  match ← body.foldlM (step globals) [] with
  | [] => return .atom (.zero wanted)
  | result :: _ =>
    if result.type != wanted then throw (.resultType result.type wanted)
    return result.value

end Constant

end WasmLua.Compile
