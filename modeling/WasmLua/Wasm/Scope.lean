import WasmLua.Wasm.Type

namespace WasmLua.Wasm

structure Scope where
  locals : List ValueType
  globals : List GlobalType
  functions : List UInt32
  types : List Signature
  tables : Nat
  memories : Nat
deriving Repr

namespace Scope

def local? (scope : Scope) (index : UInt32) : Option ValueType := scope.locals[index.toNat]?
def global? (scope : Scope) (index : UInt32) : Option GlobalType := scope.globals[index.toNat]?
def type? (scope : Scope) (index : UInt32) : Option Signature := scope.types[index.toNat]?

def function? (scope : Scope) (index : UInt32) : Option Signature := scope.functions[index.toNat]? >>= scope.type?

def hasTable (scope : Scope) (index : UInt32) : Bool := index.toNat < scope.tables
def hasMemory (scope : Scope) (index : UInt32) : Bool := index.toNat < scope.memories

end Scope

end WasmLua.Wasm
