import WasmLua.Exec.Instantiate

namespace WasmLua.Exec

inductive NativeType where
  | int32
  | uint32
  | int64
  | uint64
  | float32
  | float64
  | other (name : String)
deriving DecidableEq, Repr

namespace NativeType

def valueType? : NativeType → Option Wasm.ValueType
  | .int32 => some .i32
  | .uint32 => some .i32
  | .int64 => some .i64
  | .uint64 => some .i64
  | .float32 => some .f32
  | .float64 => some .f64
  | .other _ => none

def text : NativeType → String
  | .int32 => "int32"
  | .uint32 => "uint32"
  | .int64 => "int64"
  | .uint64 => "uint64"
  | .float32 => "float32"
  | .float64 => "float64"
  | .other name => name

def take : NativeType → HostValue → HostValue
  | .uint32, .int32 value => .uint32 value.toUInt32
  | .uint64, .int64 value => .uint64 value.toUInt64
  | _, value => value

def give : HostValue → HostValue
  | .uint32 value => .int32 value.toInt32
  | .uint64 value => .int64 value.toInt64
  | value => value

end NativeType

inductive WrapFault where
  | notFunction
  | parameter (type : NativeType)
  | result (type : NativeType)
deriving DecidableEq, Repr

def WrapFault.message : WrapFault → String
  | .notFunction => "host function must be a func"
  | .parameter type => "cannot export function with parameter type " ++ type.text
  | .result type => "cannot export function with return type " ++ type.text

structure Native (ω : Type) where
  params : List NativeType
  results : List NativeType
  run : HostAction ω

namespace Native

variable {ω : Type}

def valueTypes (fault : NativeType → WrapFault) (types : List NativeType) : Except WrapFault (List Wasm.ValueType) :=
  types.mapM fun type =>
    match type.valueType? with
    | some valueType => .ok valueType
    | none => .error (fault type)

def wrap (native : Native ω) : Except WrapFault (Entity ω) := do
  let params ← valueTypes .parameter native.params
  let results ← valueTypes .result native.results
  return .host ⟨params, results⟩ fun args world =>
    match native.run (List.zipWith NativeType.take native.params args) world with
    | (.ok results, world) => (.ok (results.map NativeType.give), world)
    | (.error failure, world) => (.error failure, world)

end Native

end WasmLua.Exec
