import WasmLua.Exec.Code

/-!
Instantiation: imports are resolved and memories, tables, references and globals are set up; then
all segments are checked before any is written; exports and the start function come last.
-/

namespace WasmLua.Exec

abbrev Imports := List (Bytes × List (Bytes × Value))

namespace Link

variable {ω : Type}

def fault (message : Bytes) : Raised := .text (Bytes.ofString linkMark ++ message)

def originText (origin : Wasm.Import) : Bytes := origin.module ++ Bytes.ofString "." ++ origin.field

def incompatible (origin : Wasm.Import) : Raised := fault (Bytes.ofString "incompatible import type " ++ originText origin)

def unknown (kind : Wasm.ExternKind) (origin : Wasm.Import) : Raised :=
  fault (Bytes.ofString ("unknown import (" ++ kind.text ++ ") ") ++ originText origin)

def supplied (imports : Imports) (origin : Wasm.Import) : Value :=
  (((imports.lookup origin.module).getD []).lookup origin.field).getD .null

def find (imports : Imports) (kind : Wasm.ExternKind) (origin : Wasm.Import) : Except Raised Value :=
  match supplied imports origin with
  | .null => .error (unknown kind origin)
  | value => .ok value

def findFunction (imports : Imports) (origin : Wasm.Import) : Except Raised Value := do
  match ← find imports .func origin with
  | .function call => return .function call
  | _ => throw (incompatible origin)

def findGlobal (imports : Imports) (origin : Wasm.Import) : Except Raised Value := do
  match ← find imports .global origin with
  | .object address => return .object address
  | .pair id low high => return .pair id low high
  | .ref owner function key call => return .ref owner function key call
  | _ => throw (incompatible origin)

def within (limits : Wasm.Limits) (size maximum : Number) : Bool := !size.lt (.ofInt limits.initial.toNat) &&
    match limits.maximum with
    | some bound => !(Number.ofInt bound.toNat).lt maximum
    | none => true

def findMemory (store : Store ω) (imports : Imports) (origin : Wasm.Import) (limits : Wasm.Limits) : Except Raised Value := do
  let value ← find imports .memory origin
  match store.memory? value with
  | some memory => if within limits memory.pages memory.maximum then return value
  | none => pure ()
  throw (incompatible origin)

def findTable (store : Store ω) (imports : Imports) (origin : Wasm.Import) (limits : Wasm.Limits) : Except Raised Value := do
  let value ← find imports .table origin
  match store.table? value with
  | some table => if within limits table.size table.maximum then return value
  | none => pure ()
  throw (incompatible origin)

def ofExcept {α : Type} : Except Raised α → Execution ω α
  | .ok value => pure value
  | .error raised => throw raised

def allocate (body : Body) (slot : Value) : Execution ω Value := modifyGet fun store => store.allocate ⟨slot, body⟩

def memory (imports : Imports) : Target.Provision → Execution ω Value
  | .imported origin limits => do ofExcept (findMemory (← get) imports origin limits)
  | .created initial maximum => do
    if maximum < initial then throw (fault (Bytes.ofString "memory size exceeds maximum"))
    allocate (.memory (.empty (.ofInt initial.toNat) (.ofInt maximum.toNat))) .null

def table (imports : Imports) : Target.Provision → Execution ω Value
  | .imported origin limits => do ofExcept (findTable (← get) imports origin limits)
  | .created initial maximum => do
    if maximum < initial then throw (fault (Bytes.ofString "table size exceeds maximum"))
    allocate (.table (.empty (.ofInt initial.toNat) (.ofInt maximum.toNat))) .null

def functions (program : Target.Program) (imports : Imports) (owner : Instance) : Execution ω Instance :=
  program.functionImports.foldlM (fun owner (index, origin) => do
    let value ← ofExcept (findFunction imports origin)
    return { owner with functions := owner.functions.setIfInBounds index value }) owner

def memories (program : Target.Program) (imports : Imports) (owner : Instance) : Execution ω Instance :=
  program.memories.foldlM (fun owner provision => do
    let value ← memory imports provision
    return { owner with memories := owner.memories.push value }) owner

def tables (program : Target.Program) (imports : Imports) (owner : Instance) : Execution ω Instance :=
  program.tables.foldlM (fun owner provision => do
    let value ← table imports provision
    return { owner with tables := owner.tables.push value }) owner

def functionValue (id : Nat) (owner : Instance) : Target.Callee → Value
  | .defined function => .function (.defined (.known id) function)
  | .imported function => owner.functions.getD function .null
  | .element _ _ _ => .null

def refValue (id : Nat) (owner : Instance) (ref : Target.RefInit) : Value :=
  match functionValue id owner ref.callee with
  | .function call => .ref id ref.function ref.key call
  | _ => .null

def refs (program : Target.Program) (id : Nat) (owner : Instance) : Instance := program.refs.foldl (fun owner ref =>
    { owner with refs := owner.refs.setIfInBounds ref.function (refValue id owner ref) }) owner

def global (names : Target.Names) (store : Store ω) (owner : Instance) (index : Nat) : Except Fault Value :=
  let value := owner.globals.getD index .null
  if names.isCell index then
    match store.object? value with
    | some object => .ok object.value
    | none => .error .operand
  else .ok value

def arith : Target.Arith → Wasm.IntBinary
  | .add => .add
  | .sub => .sub
  | .mul => .mul

def evaluate (names : Target.Names) (owner : Instance) : Target.Constant → Execution ω Value
  | .atom atom => Execution.make (Atom.value owner.refs atom)
  | .global index => do Execution.ofExcept (global names (← get) owner index)
  | .arith type op a b => do
    let a ← evaluate names owner a
    let b ← evaluate names owner b
    let made ← Execution.ofExcept (Value.integer (.held Value.zeroPair) type (arith op) a b)
    Execution.make made

def globalValue (program : Target.Program) (imports : Imports) (owner : Instance) (index : Nat) : Target.GlobalInit → Execution ω Value
  | .imported origin => ofExcept (findGlobal imports origin)
  | .created init => do
    let value ← evaluate program.toNames owner init
    if program.isCell index then allocate .cell value else return value

def globals (program : Target.Program) (imports : Imports) (owner : Instance) : Execution ω Instance :=
  program.globals.zipIdx.foldlM (fun owner (init, index) => do
    let value ← globalValue program imports owner index init
    return { owner with globals := owner.globals.push value }) owner

def offset (program : Target.Program) (owner : Instance) (value : Target.Constant) : Execution ω Number := do
  Execution.ofExcept (← evaluate program.toNames owner value).toNumber

def tableOf (owner : Instance) (index : UInt32) : Execution ω (Value × Table) := do
  let value := owner.tables.getD index.toNat .null
  match (← get).table? value with
  | some table => return (value, table)
  | none => throw .operand

def memoryOf (owner : Instance) (index : UInt32) : Execution ω (Value × Number) := do
  let value := owner.memories.getD index.toNat .null
  match (← get).memory? value with
  | some memory => return (value, memory.size)
  | none => throw .operand

def checkSegments (program : Target.Program) (owner : Instance) : Execution ω Unit := do
  program.elements.forM fun element => do
    let start ← offset program owner element.offset
    let (_, table) ← tableOf owner element.table
    Execution.ofExcept (table.check start element.functions.length)
  program.data.forM fun data => do
    let start ← offset program owner data.offset
    let (_, size) ← memoryOf owner data.memory
    Execution.ofExcept (Memory.check size start data.bytes.length)

def pieceOffset (start : Number) (position : Nat) : Number :=
  if position = 0 then start else Arithmetic.unsigned start + .ofInt position

def writeElement (program : Target.Program) (owner : Instance) (element : Target.ElementInit) : Execution ω Unit :=
  (Target.Program.chunks Target.Program.elementChunk element.functions).forM fun (position, functions) => do
      let start ← offset program owner element.offset
      let (value, table) ← tableOf owner element.table
      let refs := functions.map fun
        | some function => owner.refs.getD function .null
        | none => .null
      let table ← Execution.ofExcept (table.init (pieceOffset start position) refs)
      modify fun store => store.setTable value table

def writeData (program : Target.Program) (owner : Instance) (data : Target.DataInit) : Execution ω Unit :=
  (Target.Program.chunks Target.Program.dataChunk data.bytes).forM fun (position, bytes) => do
    let start ← offset program owner data.offset
    let (value, _) ← memoryOf owner data.memory
    let change ← Execution.ofExcept (Memory.init (pieceOffset start position) bytes)
    modify fun store => store.modifyMemory value change

def writeSegments (program : Target.Program) (owner : Instance) : Execution ω Unit := do
  program.elements.forM (writeElement program owner)
  program.data.forM (writeData program owner)

def setField (fields : List (Bytes × Value)) (name : Bytes) (value : Value) : List (Bytes × Value) :=
  let others := fields.filter (·.1 != name)
  if value = .null then others else others ++ [(name, value)]

def exportValue (id : Nat) (owner : Instance) : Target.ExportValue → Value
  | .function callee => functionValue id owner callee
  | .table index => owner.tables.getD index.toNat .null
  | .memory index => owner.memories.getD index.toNat .null
  | .global index => owner.globals.getD index.toNat .null

def exports (program : Target.Program) (id : Nat) (owner : Instance) : Instance :=
  { owner with
    exports := program.exports.foldl (fun fields (name, value) => setField fields name (exportValue id owner value)) [] }

def prepare (program : Target.Program) (imports : Imports) (id : Nat) : Execution ω Instance := do
  let owner ← functions program imports (.empty program.functionNames.length)
  let owner ← memories program imports owner
  let owner ← tables program imports owner
  let owner ← globals program imports (refs program id owner)
  checkSegments program owner
  return exports program id owner

def start (program : Target.Program) (code : Code) (depth : Nat) (id : Nat) (owner : Instance) : Execution ω Unit := do
  match program.start with
  | none => pure ()
  | some callee =>
    match functionValue id owner callee with
    | .function call =>
      let _ ← code.call depth call []
    | _ => throw .operand

def instantiate (program : Target.Program) (code : Code) (depth : Nat) (imports : Imports) : Execution ω Instance := do
  let id := (← get).instances.size
  let owner ← prepare program imports id
  modify fun store => { store with instances := store.instances.push owner }
  writeSegments program owner
  start program code depth id owner
  return owner

end Link

end WasmLua.Exec
