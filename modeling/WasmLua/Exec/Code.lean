import WasmLua.Exec.Store
import WasmLua.Target.Control
import WasmLua.Target.Program

namespace WasmLua.Exec

abbrev Execution (ω : Type) := EStateM Raised (Store ω)

structure Code where
  names : Target.Names
  functions : Array (Option Target.Function)
  negZero : Option Nat
  zero : Option Nat
  roundEven : Option Nat

namespace Code

def named? (program : Target.Program) (name : String) : Option Nat := (program.functions.find? fun function =>
    Target.helper program.namePrefix function.name == name).map (·.index)

def ofProgram (program : Target.Program) : Code where
  names := program.toNames
  functions := program.functions.foldl (fun functions function => functions.setIfInBounds function.index (some function))
    (Array.replicate program.functionNames.length none)
  negZero := named? program "NEG_ZERO"
  zero := named? program "I64_ZERO"
  roundEven := named? program "round_even"

def empty : Code := ⟨⟨"", [], []⟩, #[], none, none, none⟩

end Code

structure Frame where
  locals : Array Value
  slots : Array Value

structure Running (ω : Type) where
  frame : Frame
  store : Store ω

abbrev Run (ω : Type) := EStateM Raised (Running ω)

variable {ω : Type}

namespace Execution

def ofExcept {α : Type} : Except Fault α → Execution ω α
  | .ok value => pure value
  | .error fault => throw fault.raised

instance : MonadLift (Except Fault) (Execution ω) := ⟨ofExcept⟩

def make (made : Made) : Execution ω Value := modifyGet fun store => store.make made

end Execution

namespace Run

def ofExcept {α : Type} : Except Fault α → Run ω α
  | .ok value => pure value
  | .error fault => throw fault.raised

def operandFault {α : Type} : Run ω α := throw .operand

def onStore {α : Type} (action : Execution ω α) : Run ω α := fun ⟨frame, store⟩ =>
  match action store with
  | .ok value store => .ok value ⟨frame, store⟩
  | .error raised store => .error raised ⟨frame, store⟩

def modifyStore (change : Store ω → Store ω) : Run ω Unit := modify fun ⟨frame, store⟩ => ⟨frame, change store⟩

end Run

def Atom.value (refs : Array Value) : Target.Atom → Made
  | .i32 value => HostValue.i32Of value
  | .i64 value => if value = 0 then .held Value.zeroPair else HostValue.pairOf value.toUInt64
  | .float value => .held (.number value)
  | .null => .held .null
  | .ref function => .held (refs.getD function.toNat .null)

def Value.zeroOf (type : Wasm.ValueType) : Value :=
  match type with
  | .i64 => zeroPair
  | .funcref => .null
  | .externref => .null
  | _ => ofInt 0

def Value.owner : Value → Owner
  | .pair _ _ _ => .fieldless true
  | .ref _ _ _ _ => .fieldless true
  | .object _ => .fieldless true
  | .text _ => .fieldless false
  | _ => .barred

structure Context (ω : Type) where
  code : Code
  invoke : Callable → List Value → Execution ω (List Value)
  owner : Owner

namespace Context

variable (context : Context ω)

def shared : Shared (Execution ω) Value Made where
  negZero :=
    match context.code.negZero with
    | some function => .function (.unbound function)
    | none => .number .negZero
  zero :=
    match context.code.zero with
    | some function => .held (.function (.unbound function))
    | none => .held Value.zeroPair
  roundEven := fun value =>
    match context.code.roundEven with
    | some function => do
      return (← context.invoke (.unbound function) [value]).head?.getD .null
    | none => Execution.ofExcept (Floating.roundEven value)

end Context

namespace Code

def instanceOf (owner : Owner) : Run ω Instance := do
  match owner with
  | .known id => return (← get).store.instances.getD id default
  | .fieldless _ => return default
  | .barred => Run.operandFault

def read (owner : Owner) (operand : Target.Operand) : Run ω Value := do
  match operand with
  | .slot index => return (← get).frame.slots.getD index .null
  | .local index => return (← get).frame.locals.getD index .null
  | .atom (.ref function) => return (← instanceOf owner).refs.getD function.toNat .null
  | .atom atom => Run.onStore (Execution.make (Atom.value #[] atom))

def readNumber (owner : Owner) (operand : Target.Operand) : Run ω Number := do
  Run.ofExcept (← read owner operand).toNumber

def setSlot (index : Nat) (value : Value) : Run ω Unit :=
  modify fun ⟨⟨locals, slots⟩, store⟩ => ⟨⟨locals, slots.setIfInBounds index value⟩, store⟩

def setLocal (index : Nat) (value : Value) : Run ω Unit :=
  modify fun ⟨⟨locals, slots⟩, store⟩ => ⟨⟨locals.setIfInBounds index value, slots⟩, store⟩

def setSlots : List Nat → List Value → Run ω Unit
  | [], _ => pure ()
  | index :: rest, values => do
    setSlot index (values.head?.getD .null)
    setSlots rest values.tail

def memoryValue (owner : Owner) : Run ω Value := do
  return (← instanceOf owner).memories.getD 0 .null

def memory (owner : Owner) : Run ω Memory := do
  let value ← memoryValue owner
  match (← get).store.memory? value with
  | some memory => return memory
  | none => Run.operandFault

def changeMemory (owner : Owner) (change : Number → Except Fault (Memory → Memory)) : Run ω Unit := do
  let size := (← memory owner).size
  let change ← Run.ofExcept (change size)
  let place ← memoryValue owner
  Run.modifyStore fun store => store.modifyMemory place change

def tableValue (owner : Owner) (index : UInt32) : Run ω Value := do
  return (← instanceOf owner).tables.getD index.toNat .null

def table (owner : Owner) (index : UInt32) : Run ω Table := do
  let value ← tableValue owner index
  match (← get).store.table? value with
  | some table => return table
  | none => Run.operandFault

def setTable (owner : Owner) (index : UInt32) (table : Table) : Run ω Unit := do
  let place ← tableValue owner index
  Run.modifyStore fun store => store.setTable place table

def getGlobal (names : Target.Names) (owner : Owner) (index : Nat) : Run ω Value := do
  let value := (← instanceOf owner).globals.getD index .null
  if names.isCell index then
    match (← get).store.object? value with
    | some object => return object.value
    | none => Run.operandFault
  else return value

def setOwn (owner : Owner) (index : Nat) (value : Value) : Run ω Unit :=
  match owner with
  | .known id =>
    Run.modifyStore fun store =>
      { store with
        instances := store.instances.modify id fun owner =>
          { owner with globals := owner.globals.setIfInBounds index value } }
  | .fieldless true => pure ()
  | .fieldless false => Run.operandFault
  | .barred => Run.operandFault

def setGlobal (names : Target.Names) (owner : Owner) (index : Nat) (value : Value) : Run ω Unit := do
  if names.isCell index then
    let cell := (← instanceOf owner).globals.getD index .null
    match (← get).store.object? cell with
    | some _ => Run.modifyStore fun store => store.setSlot cell value
    | none => Run.operandFault
  else setOwn owner index value

def deliver (operation : Execution ω Made) : Run ω Value := Run.onStore do Execution.make (← operation)

def compute (context : Context ω) : Target.Computation → Run ω Value
  | .unary op a => do
    let a ← read context.owner a
    deliver (Value.unary context.shared op a)
  | .binary op a b => do
    let a ← read context.owner a
    let b ← read context.owner b
    deliver (Value.binary context.shared op a b)
  | .load access address offset => do
    let address ← readNumber context.owner address
    let memory ← memory context.owner
    deliver (Execution.ofExcept (memory.load context.shared.negZero access address offset))
  | .memorySize => do return .number (← memory context.owner).pages
  | .memoryGrow delta => do
    let delta ← readNumber context.owner delta
    let (result, grown) := (← memory context.owner).grow delta
    let place ← memoryValue context.owner
    Run.modifyStore fun store => store.modifyMemory place fun _ => grown
    return .number result
  | .global index => getGlobal context.code.names context.owner index
  | .tableGet index i => do
    let i ← readNumber context.owner i
    Run.ofExcept ((← table context.owner index).get i)
  | .tableGrow index value delta => do
    let value ← read context.owner value
    let delta ← readNumber context.owner delta
    let (result, grown) ← Run.ofExcept ((← table context.owner index).grow value delta)
    setTable context.owner index grown
    return .number result
  | .tableSize index => do
    return .number (← Run.ofExcept (I32.wrap (← table context.owner index).size))

def callee (owner : Owner) : Target.Callee → Run ω Callable
  | .defined function => return .defined owner function
  | .imported function => do
    match (← instanceOf owner).functions.getD function .null with
    | .function call => return call
    | _ => Run.operandFault
  | .element index i key => do
    let i ← readNumber owner i
    Run.ofExcept ((← table owner index).callee i key)

def perform (context : Context ω) : Target.Action → Run ω Unit
  | .setSlot slot value => do setSlot slot (← read context.owner value)
  | .setLocal index value => do setLocal index (← read context.owner value)
  | .move pairs => do
    let values ← pairs.mapM fun pair => read context.owner pair.2
    setSlots (pairs.map Prod.fst) values
  | .compute slot value => do setSlot slot (← compute context value)
  | .call slot results target args => do
    let call ← callee context.owner target
    let args ← args.mapM (read context.owner)
    let values ← Run.onStore (context.invoke call args)
    setSlots ((List.range results).map (slot + ·)) values
  | .store access address offset value => do
    let address ← readNumber context.owner address
    let value ← read context.owner value
    changeMemory context.owner fun size => Memory.store size access address offset value
  | .setGlobal index value => do
    setGlobal context.code.names context.owner index (← read context.owner value)
  | .tableSet index i value => do
    let i ← readNumber context.owner i
    let value ← read context.owner value
    setTable context.owner index (← Run.ofExcept ((← table context.owner index).set i value))
  | .tableFill index i value count => do
    let i ← readNumber context.owner i
    let value ← read context.owner value
    let count ← readNumber context.owner count
    setTable context.owner index (← Run.ofExcept ((← table context.owner index).fill i value count))
  | .memoryCopy target source count => do
    let target ← readNumber context.owner target
    let source ← readNumber context.owner source
    let count ← readNumber context.owner count
    changeMemory context.owner fun size => Memory.copy size target source count
  | .memoryFill target value count => do
    let target ← readNumber context.owner target
    let value ← read context.owner value
    let count ← readNumber context.owner count
    changeMemory context.owner fun size => Memory.fill size target value count
  | .unreachable => throw Trap.unreachable.raised

def holds (owner : Owner) : Target.Test → Run ω Bool
  | .nonzero value => do return !(← read owner value).isZero
  | .zero value => do return (← read owner value).isZero
  | .equals value number => do return (← read owner value).same (.ofInt number)
  | .between value low high => do
    let value ← read owner value
    if ← Run.ofExcept (Value.le (.ofInt low) value) then
      Run.ofExcept (Value.le value (.ofInt high))
    else return false

def meaning (context : Context ω) : Target.Interpretation Raised (Running ω) (List Value) where
  act := perform context
  test := holds context.owner
  yield := fun values => values.mapM (read context.owner)

def loopRounds : Nat := 0x4000000000000000

def frameOf (function : Target.Function) (args : List Value) : Frame where
  locals := ((List.range function.params).map fun i => args.getD i .null).toArray ++ (function.locals.map Value.zeroOf).toArray
  slots := Array.replicate function.slots .null

def runBody (context : Context ω) (function : Target.Function) (args : List Value) : Execution ω (List Value) := fun store =>
    match function.body.run (meaning context) loopRounds none ⟨frameOf function args, store⟩ with
    | .ok (.finished values, _) running => .ok values running.store
    | .ok _ running => .ok [] running.store
    | .error raised running => .error raised running.store

def hostArgs (raise : Bytes → Raised) (label : Bytes) (types : List Wasm.ValueType)
    (args : List Value) : Execution ω (List HostValue) := do
  let store ← get
  (types.zipIdx).mapM fun (type, i) =>
    match HostValue.ofValue store.pair? type (args.getD i .null) with
    | .ok value => pure value
    | .error mismatch =>
      throw (raise (Bytes.ofString s!"argument {i} of " ++ label ++ Bytes.ofString (": " ++ mismatch.message)))

def hostResults (raise : Bytes → Raised) (label : Bytes) (types : List Wasm.ValueType)
    (results : List HostValue) : Execution ω (List Value) := do
  if results.length ≠ types.length then
    throw (raise (label ++ Bytes.ofString s!" returned {results.length} results, expected {types.length}"))
  (types.zip results).zipIdx.mapM fun ((type, result), i) =>
    match result.toValue type with
    | .ok made => Execution.make made
    | .error mismatch =>
      throw (raise (Bytes.ofString s!"result {i} of " ++ label ++ Bytes.ofString (": " ++ mismatch.message)))

def callHost (raise : Bytes → Raised) (id : Nat) (args : List Value) : Execution ω (List Value) := do
  match (← get).hosts[id]? with
  | none => throw .operand
  | some host =>
    let args ← hostArgs raise host.label host.signature.params args
    modify fun store => { store with events := store.events.push (.hostCall host.label args) }
    let (outcome, world) := host.run args (← get).world
    modify fun store => { store with world }
    match outcome with
    | .ok results => hostResults raise host.label host.signature.results results
    | .error failure => throw failure.raised

def callScript (id : Nat) : Execution ω (List Value) := do
  match (← get).scripts[id]? with
  | some (.returning results) => modifyGet fun store => results.values store
  | some (.raising message) => throw (.text message)
  | none => throw .operand

def call (code : Code) : Nat → Callable → List Value → Execution ω (List Value)
  | 0, _, _ => throw (.text (Bytes.ofString "stack overflow"))
  | depth + 1, target, args =>
    let enter (owner : Owner) (index : Nat) (args : List Value) : Execution ω (List Value) :=
      match code.functions.getD index none with
      | some function => runBody ⟨code, code.call depth, owner⟩ function args
      | none => throw .operand
    match target with
    | .host id => callHost .located id args
    | .scripted id => callScript id
    | .defined owner index => enter owner index args
    | .unbound index => enter (args.head?.getD .null).owner index args.tail

end Code

end WasmLua.Exec
