import WasmLua.Compile.Frame
import WasmLua.Compile.Labels

namespace WasmLua.Compile

open Target (Operand Stmt Block Arms Unary Binary Computation Callee Action)
open Wasm (Instruction Op Signature ValueType)

structure BodyContext where
  module : Wasm.Module
  scope : Wasm.Scope
  results : List ValueType
  targeted : List Nat

structure BodyState where
  stack : ValueStack
  frames : List Frame
  nextLabel : Nat
  skipped : Nat
  maxStack : Nat
  maxDepth : Nat
  flagged : Nat
  usesFlag : Bool
  finished : List Stmt

namespace BodyState

def initial (results : List ValueType) : BodyState where
  stack := []
  frames := [.opening .function 0 0 ⟨[], results⟩ false]
  nextLabel := 1
  skipped := 0
  maxStack := 0
  maxDepth := 0
  flagged := 0
  usesFlag := false
  finished := []

def height (state : BodyState) : Nat :=
  match state.frames with
  | frame :: _ => frame.height
  | [] => 0

def next (state : BodyState) : Nat := state.stack.length

def modifyTop (state : BodyState) (change : Frame → Frame) : BodyState :=
  match state.frames with
  | frame :: rest => { state with frames := change frame :: rest }
  | [] => state

def emit (state : BodyState) (code : List Stmt) : BodyState :=
  state.modifyTop fun frame => { frame with code := code.reverse ++ frame.code }

def act (state : BodyState) (action : Action) : BodyState := state.emit [.act action]

def setUnreachable (state : BodyState) : BodyState := state.modifyTop fun frame => { frame with unreachable := true }

def pushEntry (state : BodyState) (entry : Entry) : BodyState :=
  { state with
    stack := entry :: state.stack
    maxStack := max state.maxStack (state.stack.length + 1) }

def push (state : BodyState) (type : ValueType) : BodyState := state.pushEntry ⟨type, none⟩

def pushAll (state : BodyState) (types : List ValueType) : BodyState := types.foldl push state

def pushAtom (state : BodyState) (type : ValueType) (atom : Target.Atom) : BodyState := state.pushEntry ⟨type, some (.atom atom)⟩

def pop (state : BodyState) : Except StackFault (Taken × BodyState) :=
  match state.stack with
  | [] => throw .underflow
  | entry :: rest =>
    if rest.length < state.height then throw .underflow
    else return (⟨entry.type, entry.operand rest.length⟩, { state with stack := rest })

def popMany : Nat → BodyState → Except StackFault (List Operand × BodyState)
  | 0, state => return ([], state)
  | count + 1, state => do
    let (value, state) ← state.pop
    let (deeper, state) ← popMany count state
    return (deeper ++ [value.operand], state)

def topOperands (state : BodyState) (count : Nat) (fault : StackFault) : Except StackFault (List Operand) :=
  if state.stack.length < count + state.height then throw fault
  else return state.stack.top count

def materialize (state : BodyState) (select : Nat → Operand → Bool) : BodyState :=
  let (code, stack) := state.stack.materialize select
  { state.emit code with stack := stack }

def materializeAll (state : BodyState) : BodyState := state.materialize fun _ _ => true

def unary (state : BodyState) (type : ValueType) (make : Operand → Computation) : Except StackFault BodyState := do
  let (a, state) ← state.pop
  return (state.push type).act (.compute state.next (make a.operand))

def binary (state : BodyState) (type : ValueType) (make : Operand → Operand → Computation) : Except StackFault BodyState := do
  let (b, state) ← state.pop
  let (a, state) ← state.pop
  return (state.push type).act (.compute state.next (make a.operand b.operand))

def nullary (state : BodyState) (type : ValueType) (value : Computation) : BodyState :=
  (state.push type).act (.compute state.next value)

def effect2 (state : BodyState) (make : Operand → Operand → Action) : Except StackFault BodyState := do
  let (b, state) ← state.pop
  let (a, state) ← state.pop
  return state.act (make a.operand b.operand)

def effect3 (state : BodyState) (make : Operand → Operand → Operand → Action) : Except StackFault BodyState := do
  let (c, state) ← state.pop
  let (b, state) ← state.pop
  let (a, state) ← state.pop
  return state.act (make a.operand b.operand c.operand)

def branch (state : BodyState) (depth : Int64) (same : Comparison := .structural) :
    Except StackFault (List Stmt × BodyState) := do
  if depth.toInt < 0 then throw (.branchDepth depth)
  let levels := depth.toInt.toNat
  match state.frames[levels]? with
  | none => throw (.branchDepth depth)
  | some frame =>
    if frame.isFunction then
      let values ← state.topOperands frame.arity .underflow
      return ([.ret values], state)
    let values ← state.topOperands frame.arity .underflowAtBranch
    let moves := ValueStack.moves frame.height values same
    let inner := state.frames.take levels
    let outer := state.frames.drop (levels + 1)
    let frame := if frame.isLoop then frame else { frame with branched := true }
    if !frame.isLoop && !inner.any (·.lowered) then
      return (moves ++ [.leave], { state with frames := inner ++ frame :: outer })
    let inner := inner.map fun between =>
      if between.lowered then { between with escapes := true } else between
    return (moves ++ [.setFlag frame.label, .leave], { state with
        frames := inner ++ { frame with flagSelf := true } :: outer
        flagged := state.flagged + 1
        usesFlag := true })

def jump (state : BodyState) (depth : Int64) (same : Comparison := .structural) : Except StackFault BodyState := do
  let (code, state) ← state.branch depth same
  return (state.emit code).setUnreachable

def branchIf (state : BodyState) (depth : Int64) (same : Comparison := .structural) : Except StackFault BodyState := do
  let (condition, state) ← state.pop
  match condition.constant? with
  | some value => if value == 0 then return state else state.jump depth same
  | none =>
    let (code, state) ← state.branch depth same
    return state.emit [.choose (.arm (.value (.nonzero condition.operand)) (.ofList code) .none)]

structure Run where
  first : Nat
  last : Nat
  label : Int64
deriving DecidableEq, Repr

def runs : Nat → List Int64 → List Run
  | _, [] => []
  | index, label :: rest =>
    match runs (index + 1) rest with
    | run :: more =>
      if run.label == label then { run with first := index } :: more
      else ⟨index, index, label⟩ :: run :: more
    | [] => [⟨index, index, label⟩]

def Run.test (run : Run) (index : Operand) : Target.Test :=
  if run.first = run.last then .equals index run.first else .between index run.first run.last

def tableArms (index : Operand) (otherwise : Int64) (runs : List Run) (state : BodyState)
    (same : Comparison := .structural) : Except StackFault (Arms × BodyState) :=
  match runs with
  | [] => do
    let (code, state) ← state.branch otherwise same
    return (.otherwise (.ofList code), state)
  | run :: rest => do
    let (code, state) ← state.branch run.label same
    let (arms, state) ← tableArms index otherwise rest state same
    return (.arm (.value (run.test index)) (.ofList code) arms, state)

def tableTarget (labels : List Int64) (otherwise : Int64) (index : Int32) : Int64 := labels[index.toUInt32.toNat]?.getD otherwise

def branchTable (state : BodyState) (labels : List Int64) (otherwise : Int64)
    (same : Comparison := .structural) : Except StackFault BodyState := do
  let (index, state) ← state.pop
  match index.constant? with
  | some value => state.jump (tableTarget labels otherwise value) same
  | none =>
    match (runs 0 labels).filter (·.label != otherwise) with
    | [] => state.jump otherwise same
    | different =>
      let (arms, state) ← tableArms index.operand otherwise different state same
      return (state.emit [.choose arms]).setUnreachable

def select (state : BodyState) (same : Comparison := .structural) : Except StackFault BodyState := do
  let (condition, state) ← state.pop
  let (b, state) ← state.pop
  let (a, state) ← state.pop
  let slot := state.next
  match condition.constant? with
  | some value =>
    if value != 0 then return state.pushEntry ⟨a.type, some a.operand⟩
    let state := state.push a.type
    return if same.isSlot b.operand slot then state else state.act (.setSlot slot b.operand)
  | none =>
    let second := Block.ofList [.act (.setSlot slot b.operand)]
    let rest : Arms :=
      if same.isSlot a.operand slot then .none
      else .otherwise (.ofList [.act (.setSlot slot a.operand)])
    return (state.push a.type).emit [.choose (.arm (.value (.zero condition.operand)) second rest)]

def call (state : BodyState) (callee : Callee) (signature : Signature) : Except StackFault BodyState := do
  let (args, state) ← popMany signature.params.length state
  return (state.pushAll signature.results).act (.call state.next signature.results.length callee args)

def enter (state : BodyState) (context : BodyContext) (kind : FrameKind) (instruction : Instruction) : Except StackFault BodyState :=
  match instruction.blockType? context.scope with
  | none => throw .blockType
  | some type =>
    if state.stack.length < type.params.length + state.height then
      throw (.underflowAt instruction.opText)
    else
      let frame := Frame.opening kind state.nextLabel (state.stack.length - type.params.length) type
        (context.targeted.contains state.nextLabel)
      return { state with frames := frame :: state.frames, nextLabel := state.nextLabel + 1 }

def endValues (state : BodyState) (frame : Frame) : Except StackFault BodyState :=
  if state.stack.length != frame.height + frame.results.length then
    throw (.resultCount frame.results.length (state.stack.length - frame.height))
  else return state.materialize fun slot _ => frame.height ≤ slot

def elseArm (state : BodyState) : Except StackFault BodyState :=
  match state.frames with
  | [] => throw .elseWithoutIf
  | frame :: _ => do
    if !(frame.kind matches .conditional _) || frame.thenArm.isSome then throw .elseWithoutIf
    let state ← if frame.unreachable then pure state else state.endValues frame
    let state := state.modifyTop fun frame =>
      { frame with
        thenArm := some (frame.body, !frame.unreachable)
        unreachable := false
        code := [] }
    let state := { state with stack := state.stack.trim frame.height }
    return state.pushAll frame.params

def endBlock (state : BodyState) : Except StackFault BodyState :=
  match state.frames with
  | [] => throw .afterEnd
  | frame :: outer =>
    if frame.isFunction then do
      let state ←
        if frame.unreachable || frame.results.isEmpty then pure state
        else do
          let values ← state.topOperands frame.results.length .underflow
          pure (state.emit [.ret values])
      match state.frames with
      | frame :: _ => return { state with frames := [], finished := frame.close }
      | [] => return state
    else do
      let state ← if frame.unreachable then pure state else state.endValues frame
      match state.frames with
      | [] => return state
      | frame :: _ =>
        let state := { state with frames := outer, stack := state.stack.trim frame.height }
        let state := (state.emit frame.close).pushAll frame.results
        return state.modifyTop fun parent => { parent with unreachable := !frame.continues }

end BodyState

def unaryOf? : Op → Option (Unary × ValueType)
  | .intTest type => some (.intTest type, .i32)
  | .intUnary type op => some (.int type op, type.valueType)
  | .floatUnary type op => some (.float type op, type.valueType)
  | .convert (.convert .f64 .i32 .signed) => none
  | .convert .promote => none
  | .convert op => some (.convert op, op.result)
  | .refIsNull => some (.isNull, .i32)
  | _ => none

def binaryOf? : Op → Option (Binary × ValueType)
  | .intCompare type op => some (.intCompare type op, .i32)
  | .floatCompare type op => some (.floatCompare type op, .i32)
  | .intBinary type op => some (.int type op, type.valueType)
  | .floatBinary type op => some (.float type op, type.valueType)
  | _ => none

def elementType (module : Wasm.Module) (table : UInt32) : ValueType :=
  match module.tables[table.toNat]? with
  | some found => found.element
  | none => .funcref

open BodyState in
def compileOp (context : BodyContext) (state : BodyState) (instruction : Instruction) (op : Op)
    (same : Comparison := .structural) : Except StackFault BodyState :=
  match unaryOf? op, binaryOf? op with
  | some (op, type), _ => state.unary type (.unary op)
  | none, some (op, type) => state.binary type (.binary op)
  | none, none =>
    match op with
    | .load access =>
      state.unary access.result fun address => .load access address instruction.offset
    | .store access =>
      state.effect2 fun address value => .store access address instruction.offset value
    | .unreachable => return (state.act .unreachable).setUnreachable
    | .block => state.materializeAll.enter context .block instruction
    | .loop => state.materializeAll.enter context .loop instruction
    | .ifElse => do
      let (condition, state) ← state.pop
      state.materializeAll.enter context (.conditional condition.operand) instruction
    | .elseArm => state.elseArm
    | .endBlock => state.endBlock
    | .br => state.jump instruction.label same
    | .brIf => state.branchIf instruction.label same
    | .brTable => state.branchTable instruction.labels instruction.default same
    | .ret => do
      let values ← state.topOperands context.results.length .underflow
      return (state.emit [.ret values]).setUnreachable
    | .callIndirect => do
      match context.scope.type? instruction.index with
      | none => throw (.typeIndex instruction.index)
      | some signature =>
        let (index, state) ← state.pop
        state.call (.element instruction.table index.operand signature.key) signature
    | .drop => do
      let (_, state) ← state.pop
      return state
    | .select | .selectTyped => state.select same
    | .localGet =>
      match context.scope.local? instruction.index with
      | none => throw (.localIndex instruction.index)
      | some type => return state.pushEntry ⟨type, some (.local instruction.index.toNat)⟩
    | .localSet | .localTee => do
      match context.scope.local? instruction.index with
      | none => throw (.localIndex instruction.index)
      | some type =>
        let place := Operand.local instruction.index.toNat
        let (value, state) ← state.pop
        let state := state.materialize fun _ operand => operand == place
        let state :=
          if same.isLocal value.operand instruction.index.toNat then state
          else state.act (.setLocal instruction.index.toNat value.operand)
        return if op == .localTee then state.pushEntry ⟨type, some place⟩ else state
    | .globalGet =>
      match context.scope.global? instruction.index with
      | none => throw (.globalIndex instruction.index)
      | some type => return state.nullary type.type (.global instruction.index.toNat)
    | .globalSet => do
      if (context.scope.global? instruction.index).isNone then
        throw (.globalIndex instruction.index)
      let (value, state) ← state.pop
      return state.act (.setGlobal instruction.index.toNat value.operand)
    | .tableGet =>
      state.unary (elementType context.module instruction.table) (.tableGet instruction.table)
    | .tableSet => state.effect2 (.tableSet instruction.table)
    | .memorySize => return state.nullary .i32 .memorySize
    | .memoryGrow => state.unary .i32 .memoryGrow
    | .const (.int .i32) => return state.pushAtom .i32 (.i32 instruction.i32)
    | .const (.int .i64) => return state.pushAtom .i64 (.i64 instruction.i64)
    | .const (.float .f32) => return state.pushAtom .f32 (.float instruction.f32)
    | .const (.float .f64) => return state.pushAtom .f64 (.float instruction.f64)
    | .convert _ =>
      match state.stack with
      | [] => throw .underflow
      | entry :: rest =>
        if rest.length < state.height then throw .underflow
        else return { state with stack := { entry with type := .f64 } :: rest }
    | .refNull => return state.pushAtom instruction.valueType .null
    | .refFunc => return state.pushAtom .funcref (.ref instruction.index)
    | .memoryCopy => state.effect3 .memoryCopy
    | .memoryFill => state.effect3 .memoryFill
    | .tableGrow => state.binary .i32 (.tableGrow instruction.table)
    | .tableSize => return state.nullary .i32 (.tableSize instruction.table)
    | .tableFill => state.effect3 (.tableFill instruction.table)
    | _ => return state

def compileCall (context : BodyContext) (state : BodyState) (index : UInt32) : Except BodyFault BodyState :=
  match context.module.functions[index.toNat]? with
  | none => throw (.stack (.functionIndex index))
  | some function =>
    match context.scope.type? function.type with
    | none => throw .missingSignature
    | some signature =>
      let callee : Callee :=
        if function.origin.isSome then .imported index.toNat else .defined index.toNat
      (state.call callee signature).mapError .stack

def compileInstruction (context : BodyContext) (state : BodyState) (instruction : Instruction)
    (same : Comparison := .structural) : Except BodyFault BodyState :=
  match instruction.op? with
  | none => throw (.unsupported instruction.opText)
  | some .call => compileCall context state instruction.index
  | some op => (compileOp context state instruction op same).mapError .stack

def skip? (state : BodyState) (instruction : Instruction) : Option BodyState :=
  match instruction.op? with
  | some .block | some .loop | some .ifElse =>
    some { state with skipped := state.skipped + 1, nextLabel := state.nextLabel + 1 }
  | some .elseArm => if 0 < state.skipped then some state else none
  | some .endBlock =>
    if 0 < state.skipped then some { state with skipped := state.skipped - 1 } else none
  | _ => some state

def stepBody (context : BodyContext) (state : BodyState) (instruction : Instruction)
    (same : Comparison := .structural) : Except BodyFault BodyState :=
  match state.frames with
  | [] => throw (.stack .afterEnd)
  | frame :: _ =>
    match if frame.unreachable then skip? state instruction else none with
    | some state => return state
    | none => do
      let state ← compileInstruction context state instruction same
      return { state with maxDepth := max state.maxDepth state.frames.length }

def runBody (context : BodyContext) (offset : Nat) (state : BodyState) (body : List Instruction)
    (same : Comparison := .structural) : Except (Nat × BodyFault) BodyState :=
  match body with
  | [] => if state.frames.isEmpty then .ok state else .error (offset - 1, .stack .missingEnd)
  | instruction :: rest =>
    match stepBody context state instruction same with
    | .ok state => runBody context (offset + 1) state rest same
    | .error fault => .error (offset, fault)

structure CompiledBody where
  code : Block
  slots : Nat
  usesFlag : Bool
  usedLocals : Nat
  maxDepth : Nat
  lowered : Nat
  flagged : Nat

def compileBody (module : Wasm.Module) (scope : Wasm.Scope) (results : List ValueType)
    (body : List Instruction) (same : Comparison := .structural) :
    Except (Nat × BodyFault) CompiledBody := do
  let labels ← (Labels.ofBody body).mapError fun (offset, fault) => (offset, .stack fault)
  let state ← runBody ⟨module, scope, results, labels.targeted⟩ 0 (.initial results) body same
  return {
    code := .ofList state.finished
    slots := state.maxStack
    usesFlag := state.usesFlag
    usedLocals := labels.used.length
    maxDepth := state.maxDepth
    lowered := labels.targeted.length
    flagged := state.flagged }

end WasmLua.Compile
