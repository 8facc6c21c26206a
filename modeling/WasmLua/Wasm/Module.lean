import WasmLua.Wasm.Instruction

namespace WasmLua.Wasm

structure Import where
  module : Bytes
  field : Bytes
deriving DecidableEq, Repr

structure Function where
  name : Bytes
  type : UInt32
  origin : Option Import
  locals : List ValueType
  body : List Instruction
deriving DecidableEq, Repr

structure Table where
  origin : Option Import
  element : ValueType
  limits : Limits
deriving DecidableEq, Repr

structure Memory where
  origin : Option Import
  limits : Limits
deriving DecidableEq, Repr

structure Global where
  origin : Option Import
  type : GlobalType
  init : List Instruction
deriving DecidableEq, Repr

structure ElementSegment where
  table : UInt32
  offset : List Instruction
  init : List Int64
  passive : Bool
deriving DecidableEq, Repr

structure DataSegment where
  memory : UInt32
  offset : List Instruction
  init : Bytes
  passive : Bool
deriving DecidableEq, Repr

structure Export where
  name : Bytes
  kind : ExternKind
  index : UInt32
deriving DecidableEq, Repr

structure Module where
  name : Bytes
  types : List Signature
  functions : List Function
  tables : List Table
  memories : List Memory
  globals : List Global
  elements : List ElementSegment
  data : List DataSegment
  exports : List Export
  start : Option UInt32
deriving DecidableEq, Repr

namespace Module

def empty : Module := ⟨[], [], [], [], [], [], [], [], [], none⟩

def importedFunctions (module : Module) : Nat := (module.functions.takeWhile (·.origin.isSome)).length

def type? (module : Module) (index : UInt32) : Option Signature := module.types[index.toNat]?

def signature? (module : Module) (index : Nat) : Option Signature :=
  module.functions[index]? >>= fun function => module.type? function.type

def scopeWith (module : Module) (locals : List ValueType) : Scope where
  locals := locals
  globals := module.globals.map (·.type)
  functions := module.functions.map (·.type)
  types := module.types
  tables := module.tables.length
  memories := module.memories.length

def scope (module : Module) : Scope := module.scopeWith []

def functionScope? (module : Module) (index : Nat) : Option Scope := do
  let function ← module.functions[index]?
  let signature ← module.type? function.type
  return module.scopeWith (signature.params ++ function.locals)

end Module

end WasmLua.Wasm
