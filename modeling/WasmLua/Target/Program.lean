import WasmLua.Target.Statement

namespace WasmLua.Target

inductive Arith where
  | add
  | sub
  | mul
deriving DecidableEq, Repr

inductive Constant where
  | atom (value : Atom)
  | global (index : Nat)
  | arith (type : Wasm.IntType) (op : Arith) (a b : Constant)
deriving DecidableEq, Repr

def Atom.zero : Wasm.ValueType → Atom
  | .i64 => .i64 0
  | .funcref => .null
  | .externref => .null
  | _ => .i32 0

inductive Provision where
  | imported (origin : Wasm.Import) (limits : Wasm.Limits)
  | created (initial maximum : UInt32)
deriving DecidableEq, Repr

inductive GlobalInit where
  | imported (origin : Wasm.Import)
  | created (init : Constant)
deriving DecidableEq, Repr

structure RefInit where
  function : Nat
  key : Bytes
  callee : Callee
deriving DecidableEq, Repr

structure ElementInit where
  table : UInt32
  offset : Constant
  functions : List (Option Nat)
deriving DecidableEq, Repr

structure DataInit where
  memory : UInt32
  offset : Constant
  bytes : Bytes
deriving DecidableEq, Repr

inductive ExportValue where
  | function (callee : Callee)
  | table (index : UInt32)
  | memory (index : UInt32)
  | global (index : UInt32)
deriving DecidableEq, Repr

structure Extern where
  module : Bytes
  name : Bytes
  kind : Wasm.ExternKind
  type : Bytes
  mutable : Bool
deriving DecidableEq, Repr

structure Function where
  index : Nat
  name : String
  params : Nat
  locals : List Wasm.ValueType
  slots : Nat
  usesFlag : Bool
  spilled : Bool
  body : Block

structure Names where
  namePrefix : String
  functionNames : List String
  cells : List Bool

def Names.isCell (names : Names) (global : Nat) : Bool := names.cells.getD global false

structure Program extends Names where
  name : Bytes
  functionImports : List (Nat × Wasm.Import)
  memories : List Provision
  tables : List Provision
  refs : List RefInit
  globals : List GlobalInit
  elements : List ElementInit
  data : List DataInit
  functions : List Function
  exports : List (Bytes × ExportValue)
  start : Option Callee
  importList : List Extern
  exportList : List Extern

namespace Program

def elementChunk : Nat := 256

def dataChunk : Nat := 4096

def chunksFrom {α : Type} (size start : Nat) : Nat → List α → List (Nat × List α)
  | 0, _ => []
  | fuel + 1, items =>
    if items.isEmpty then []
    else (start, items.take size) :: chunksFrom size (start + size) fuel (items.drop size)

def chunks {α : Type} (size : Nat) (items : List α) : List (Nat × List α) := chunksFrom size 0 items.length items

end Program

end WasmLua.Target
