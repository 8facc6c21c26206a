import WasmLua.Wasm.Module

namespace WasmLua.Compile

inductive StackFault where
  | branchDepth (depth : Int64)
  | unbalancedEnd
  | afterEnd
  | missingEnd
  | underflow
  | underflowAtBranch
  | underflowAt (op : String)
  | blockType
  | elseWithoutIf
  | resultCount (expected actual : Nat)
  | functionIndex (index : UInt32)
  | typeIndex (index : UInt32)
  | localIndex (index : UInt32)
  | globalIndex (index : UInt32)
deriving DecidableEq, Repr

def StackFault.message : StackFault → String
  | .branchDepth depth => s!"branch depth {depth} out of range"
  | .unbalancedEnd => "unbalanced end"
  | .afterEnd => "instruction after the end of the function"
  | .missingEnd => "missing end"
  | .underflow => "value stack underflow"
  | .underflowAtBranch => "value stack underflow at branch"
  | .underflowAt op => "value stack underflow at " ++ op
  | .blockType => "invalid block type"
  | .elseWithoutIf => "else without if"
  | .resultCount expected actual => s!"expected {expected} values at end of block, have {actual}"
  | .functionIndex index => s!"function index {index} out of range"
  | .typeIndex index => s!"type index {index} out of range"
  | .localIndex index => s!"local index {index} out of range"
  | .globalIndex index => s!"global index {index} out of range"

inductive BodyFault where
  | stack (fault : StackFault)
  | unsupported (op : String)
  | missingSignature
deriving DecidableEq, Repr

inductive ConstantFault where
  | globalIndex (index : UInt32)
  | unexpected (op : String)
  | underflow (op : String)
  | operandType (op : String) (type : Wasm.ValueType)
  | resultType (actual expected : Wasm.ValueType)
deriving DecidableEq, Repr

def ConstantFault.message : ConstantFault → String
  | .globalIndex index => s!"global index {index} out of range in constant expression"
  | .unexpected op => "unexpected instruction " ++ op ++ " in constant expression"
  | .underflow op => "constant expression stack underflow at " ++ op
  | .operandType op type => op ++ " operand has type " ++ type.text
  | .resultType actual expected =>
    "constant expression has type " ++ actual.text ++ ", expected " ++ expected.text

inductive ConstantOwner where
  | global (index : Nat)
  | element (index : Nat)
  | data (index : Nat)
deriving DecidableEq, Repr

def ConstantOwner.text : ConstantOwner → String
  | .global index => s!"global {index}"
  | .element index => s!"element segment {index}"
  | .data index => s!"data segment {index}"

inductive Error where
  | namePrefix (name : Bytes)
  | exportedGlobal (name : Bytes) (index : UInt32)
  | exportedFunction (name : Bytes) (index : UInt32)
  | elementFunction (segment : Nat) (index : Int64)
  | stack (function offset : Nat) (fault : StackFault)
  | unsupported (function offset : Nat) (op : String)
  | constant (owner : ConstantOwner) (fault : ConstantFault)
  | elementTable (segment : Nat) (table : UInt32)
  | dataMemory (segment : Nat) (memory : UInt32)
  | startFunction (index : UInt32)
  | missingSignature
deriving DecidableEq, Repr

def Error.message : Error → String
  | .namePrefix name => "invalid name prefix " ++ Quoted.bytes name ++ ": not a Lua identifier"
  | .exportedGlobal name index =>
    "export " ++ Quoted.bytes name ++ s!": global index {index} out of range"
  | .exportedFunction name index =>
    "export " ++ Quoted.bytes name ++ s!": function index {index} out of range"
  | .elementFunction segment index =>
    s!"element segment {segment}: function index {index} out of range"
  | .stack function offset fault =>
    s!"function {function}: instruction {offset}: " ++ fault.message
  | .unsupported function offset op =>
    s!"function {function}: instruction {offset}: unsupported instruction " ++ op
  | .constant owner fault => owner.text ++ ": " ++ fault.message
  | .elementTable segment table =>
    s!"element segment {segment}: table index {table} out of range"
  | .dataMemory segment memory => s!"data segment {segment}: memory index {memory} out of range"
  | .startFunction index => s!"start function index {index} out of range"
  | .missingSignature => ""

end WasmLua.Compile
