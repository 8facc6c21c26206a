import WasmLua.Wasm.Module

namespace WasmLua.Target

inductive Atom where
  | i32 (value : Int32)
  | i64 (value : Int64)
  | float (value : Number)
  | null
  | ref (function : UInt32)
deriving DecidableEq, Repr

inductive Operand where
  | slot (index : Nat)
  | local (index : Nat)
  | atom (value : Atom)
deriving DecidableEq, Repr

inductive Unary where
  | intTest (type : Wasm.IntType)
  | int (type : Wasm.IntType) (op : Wasm.IntUnary)
  | float (type : Wasm.FloatType) (op : Wasm.FloatUnary)
  | convert (op : Wasm.Conversion)
  | isNull
deriving DecidableEq, Repr

inductive Binary where
  | intCompare (type : Wasm.IntType) (op : Wasm.IntCompare)
  | floatCompare (type : Wasm.FloatType) (op : Wasm.FloatCompare)
  | int (type : Wasm.IntType) (op : Wasm.IntBinary)
  | float (type : Wasm.FloatType) (op : Wasm.FloatBinary)
deriving DecidableEq, Repr

inductive Computation where
  | unary (op : Unary) (a : Operand)
  | binary (op : Binary) (a b : Operand)
  | load (access : Wasm.Load) (address : Operand) (offset : UInt32)
  | memorySize
  | memoryGrow (delta : Operand)
  | global (index : Nat)
  | tableGet (table : UInt32) (index : Operand)
  | tableGrow (table : UInt32) (value delta : Operand)
  | tableSize (table : UInt32)
deriving DecidableEq, Repr

inductive Callee where
  | defined (function : Nat)
  | imported (function : Nat)
  | element (table : UInt32) (index : Operand) (key : Bytes)
deriving DecidableEq, Repr

inductive Action where
  | setSlot (slot : Nat) (value : Operand)
  | setLocal (index : Nat) (value : Operand)
  | move (pairs : List (Nat × Operand))
  | compute (slot : Nat) (value : Computation)
  | call (slot results : Nat) (callee : Callee) (args : List Operand)
  | store (access : Wasm.Store) (address : Operand) (offset : UInt32) (value : Operand)
  | setGlobal (index : Nat) (value : Operand)
  | tableSet (table : UInt32) (index value : Operand)
  | tableFill (table : UInt32) (index value count : Operand)
  | memoryCopy (target source count : Operand)
  | memoryFill (target value count : Operand)
  | unreachable
deriving DecidableEq, Repr

inductive Test where
  | nonzero (value : Operand)
  | zero (value : Operand)
  | equals (value : Operand) (number : Nat)
  | between (value : Operand) (low high : Nat)
deriving DecidableEq, Repr

inductive Condition where
  | value (test : Test)
  | flagIs (label : Nat)
  | flagSet
deriving DecidableEq, Repr

mutual

inductive Stmt where
  | act (action : Action)
  | setFlag (label : Nat)
  | clearFlag
  | leave
  | ret (values : List Operand)
  | choose (arms : Arms)
  | once (body : Block)
  | forever (body : Block)

inductive Block where
  | done
  | next (first : Stmt) (rest : Block)

inductive Arms where
  | none
  | otherwise (body : Block)
  | arm (condition : Condition) (body : Block) (rest : Arms)

end

deriving instance Repr for Stmt, Block, Arms

namespace Block

def ofList : List Stmt → Block
  | [] => .done
  | first :: rest => .next first (ofList rest)

end Block

end WasmLua.Target
