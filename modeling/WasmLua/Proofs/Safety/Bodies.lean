import WasmLua.Proofs.Safety.Operations
import WasmLua.Target.Program

namespace WasmLua.Compile

open List
open Wasm.Scope
open Target (Callee Operand)
open Wasm (Instruction Op ValueType)

namespace Guarded

instance : Reports BodyFault := ⟨(· ≠ .missingSignature)⟩

instance {ε : Type} [Reports ε] : Reports (Nat × ε) := ⟨fun fault => Reports.reported fault.2⟩

def elementType {ε : Type} (module : Wasm.Module) (table : UInt32) : Guarded ε ValueType :=
  if table.toNat < module.tables.length then do return (← fetch module.tables table.toNat).element
  else return .funcref

def globalAt (names : Target.Names) (context : BodyContext) (index : UInt32) : Guarded StackFault Wasm.GlobalType := do
  let type ← lookup context.scope.globals index.toNat (.globalIndex index)
  let _ ← fetch names.cells index.toNat
  return type

def setLocal (state : BodyState) (type : ValueType) (index : Nat) (tee : Bool) : Guarded StackFault BodyState := do
  let (value, state) ← pop state
  let state ← materialize state fun _ operand => operand == .local index
  let state ←
    if value.operand == .local index then pure state else act state (.setLocal index value.operand)
  return if tee then state.pushEntry ⟨type, some (.local index)⟩ else state

def retype (state : BodyState) : Guarded StackFault BodyState := do
  let frame ← top state
  if state.stack.length ≤ frame.height then refuse .underflow
  else
    let entry ← fetch state.stack 0
    return { state with stack := { entry with type := .f64 } :: state.stack.tail }

def compileOp (names : Target.Names) (context : BodyContext) (state : BodyState)
    (instruction : Instruction) (op : Op) : Guarded StackFault BodyState :=
  match unaryOf? op, binaryOf? op with
  | some (op, type), _ => unary state type (.unary op)
  | none, some (op, type) => binary state type (.binary op)
  | none, none =>
    match op with
    | .load access => unary state access.result fun address => .load access address instruction.offset
    | .store access =>
      effect2 state fun address value => .store access address instruction.offset value
    | .unreachable => do setUnreachable (← act state .unreachable)
    | .block => do enter (← materializeAll state) context .block instruction
    | .loop => do enter (← materializeAll state) context .loop instruction
    | .ifElse => do
      let (condition, state) ← pop state
      enter (← materializeAll state) context (.conditional condition.operand) instruction
    | .elseArm => elseArm state
    | .endBlock => endBlock state
    | .br => jump state instruction.label
    | .brIf => branchIf state instruction.label
    | .brTable => branchTable state instruction.labels instruction.default
    | .ret => do
      let values ← topOperands state context.results.length .underflow
      setUnreachable (← emit state [.ret values])
    | .callIndirect => do
      let signature ← lookup context.scope.types instruction.index.toNat (.typeIndex instruction.index)
      let (index, state) ← pop state
      call state (.element instruction.table index.operand signature.key) signature
    | .drop => do
      let (_, state) ← pop state
      return state
    | .select | .selectTyped => select state
    | .localGet => do
      let type ← lookup context.scope.locals instruction.index.toNat (.localIndex instruction.index)
      return state.pushEntry ⟨type, some (.local instruction.index.toNat)⟩
    | .localSet | .localTee => do
      let type ← lookup context.scope.locals instruction.index.toNat (.localIndex instruction.index)
      setLocal state type instruction.index.toNat (op == .localTee)
    | .globalGet => do
      let type ← globalAt names context instruction.index
      nullary state type.type (.global instruction.index.toNat)
    | .globalSet => do
      let _ ← globalAt names context instruction.index
      let (value, state) ← pop state
      act state (.setGlobal instruction.index.toNat value.operand)
    | .tableGet => do
      unary state (← elementType context.module instruction.table) (.tableGet instruction.table)
    | .tableSet => effect2 state (.tableSet instruction.table)
    | .memorySize => nullary state .i32 .memorySize
    | .memoryGrow => unary state .i32 .memoryGrow
    | .const (.int .i32) => return state.pushAtom .i32 (.i32 instruction.i32)
    | .const (.int .i64) => return state.pushAtom .i64 (.i64 instruction.i64)
    | .const (.float .f32) => return state.pushAtom .f32 (.float instruction.f32)
    | .const (.float .f64) => return state.pushAtom .f64 (.float instruction.f64)
    | .convert _ => retype state
    | .refNull => return state.pushAtom instruction.valueType .null
    | .refFunc => return state.pushAtom .funcref (.ref instruction.index)
    | .memoryCopy => effect3 state .memoryCopy
    | .memoryFill => effect3 state .memoryFill
    | .tableGrow => binary state .i32 (.tableGrow instruction.table)
    | .tableSize => nullary state .i32 (.tableSize instruction.table)
    | .tableFill => effect3 state (.tableFill instruction.table)
    | _ => return state

def compileCall (names : Target.Names) (context : BodyContext) (state : BodyState) (index : UInt32) :
    Guarded BodyFault BodyState := do
  let function ← lookup context.module.functions index.toNat (.stack (.functionIndex index))
  let signature ← fetch context.scope.types function.type.toNat
  let callee : Callee ←
    if function.origin.isSome then pure (.imported index.toNat)
    else do
      let _ ← fetch names.functionNames index.toNat
      pure (.defined index.toNat)
  (call state callee signature).mapError (Stop.map .stack)

def compileInstruction (names : Target.Names) (context : BodyContext) (state : BodyState)
    (instruction : Instruction) : Guarded BodyFault BodyState :=
  match instruction.op? with
  | none => refuse (.unsupported instruction.opText)
  | some .call => compileCall names context state instruction.index
  | some op => (compileOp names context state instruction op).mapError (Stop.map .stack)

def stepBody (names : Target.Names) (context : BodyContext) (state : BodyState)
    (instruction : Instruction) : Guarded BodyFault BodyState := do
  if state.frames.isEmpty then refuse (.stack .afterEnd)
  else
    let frame ← (top state).mapError (Stop.map .stack)
    match if frame.unreachable then skip? state instruction else none with
    | some state => return state
    | none =>
      let state ← compileInstruction names context state instruction
      return { state with maxDepth := max state.maxDepth state.frames.length }

def runBody (names : Target.Names) (context : BodyContext) : Nat → BodyState → List Instruction → Guarded (Nat × BodyFault) BodyState
  | offset, state, [] =>
    if state.frames.isEmpty then .ok state else refuse (offset - 1, .stack .missingEnd)
  | offset, state, instruction :: rest => do
    let state ← (stepBody names context state instruction).mapError (Stop.map (offset, ·))
    runBody names context (offset + 1) state rest

def target (labels : Labels) (depth : Int64) : Guarded StackFault Labels :=
  if depth.toInt < 0 then refuse (.branchDepth depth)
  else do
    let label ← lookup labels.opened depth.toInt.toNat (.branchDepth depth)
    return if label = 0 then labels else { labels with targeted := labels.targeted.insert label }

def label (labels : Labels) (instruction : Instruction) : Guarded StackFault Labels :=
  match instruction.op? with
  | some .block | some .loop | some .ifElse =>
    return { labels with opened := labels.next :: labels.opened, next := labels.next + 1 }
  | some .endBlock =>
    if labels.opened.isEmpty then refuse .unbalancedEnd
    else do
      let _ ← fetch labels.opened 0
      return { labels with opened := labels.opened.tail }
  | some .br | some .brIf => target labels instruction.label
  | some .brTable => do
    let labels ← instruction.labels.foldlM target labels
    target labels instruction.default
  | some .localGet | some .localSet | some .localTee =>
    return { labels with used := labels.used.insert instruction.index }
  | _ => return labels

def scan : Nat → Labels → List Instruction → Guarded (Nat × StackFault) Labels
  | _, labels, [] => .ok labels
  | offset, labels, instruction :: rest => do
    let labels ← (label labels instruction).mapError (Stop.map (offset, ·))
    scan (offset + 1) labels rest

def compileBody (names : Target.Names) (module : Wasm.Module) (scope : Wasm.Scope)
    (results : List ValueType) (body : List Instruction) : Guarded (Nat × BodyFault) CompiledBody := do
  let labels ← (scan 0 .initial body).mapError (Stop.map fun (offset, fault) => (offset, .stack fault))
  let state ← runBody names ⟨module, scope, results, labels.targeted⟩ 0 (.initial results) body
  return {
    code := .ofList state.finished
    slots := state.maxStack
    usesFlag := state.usesFlag
    usedLocals := labels.used.length
    maxDepth := state.maxDepth
    lowered := labels.targeted.length
    flagged := state.flagged }

variable {names : Target.Names} {context : BodyContext} {state after : BodyState} {body : List Instruction}

section Instructions

variable {state : BodyState} (steady : Steady state)

include steady

lemma opened_mirrors (context : BodyContext) (kind : FrameKind) (instruction : Instruction) (inner : kind ≠ .function) :
    Mirrors Steady (do enter (← materializeAll state) context kind instruction)
      (state.materializeAll.enter context kind instruction) := by
  apply mirrors_guard _ (materialized steady _)
  exact enter_mirrors (steady_materialize _ steady) context instruction inner

lemma set_local_mirrors (type : ValueType) {index : Nat} (tee : Bool) : Mirrors Steady (setLocal state type index tee) (do
        let (value, state) ← state.pop
        let state := state.materialize fun _ operand => operand == .local index
        let state :=
          if value.operand == .local index then state else state.act (.setLocal index value.operand)
        return if tee then state.pushEntry ⟨type, some (.local index)⟩ else state) := by
  refine mirrors_pop steady fun value next steady => ?_
  apply mirrors_guard _ (materialized steady _)
  have steady := steady_materialize (fun _ operand => operand == .local index) steady
  have pushed : ∀ last : BodyState, Steady last → Steady (if tee then last.pushEntry ⟨type, some (.local index)⟩ else last) := by
    intro last steady
    cases tee
    · exact steady
    · exact steady_push _ steady
  by_cases same : (value.operand == .local index) = true
  · simp only [if_pos same]
    exact mirrors_value _ (pushed _ steady)
  · simp only [if_neg same]
    apply mirrors_guard _ (emitted steady _)
    exact mirrors_value _ (pushed _ (steady_emit _ steady))

lemma retype_mirrors : Mirrors Steady (retype state) (match state.stack with
        | [] => throw .underflow
        | entry :: rest =>
          if rest.length < state.height then throw .underflow
          else return { state with stack := { entry with type := .f64 } :: rest }) := by
  obtain ⟨frame, outer, frames, height, low, -, -⟩ := steady_top steady
  apply mirrors_guard frame (top_found frames)
  cases held : state.stack with
  | nil => exact mirrors_refuse _ trivial
  | cons entry rest =>
    simp only [length_cons, height]
    by_cases empty : rest.length < frame.height
    · rw [if_pos (by omega), if_pos empty]
      exact mirrors_refuse _ trivial
    · rw [if_neg (by omega), if_neg empty]
      apply mirrors_value
      refine steady_keeps _ steady rfl ?_
      rw [height]
      exact Nat.le_succ_of_le (Nat.le_of_not_lt empty)

omit steady in
lemma global_found {index : UInt32} (cells : names.cells.length = context.scope.globals.length)
    {next : Wasm.GlobalType → Guarded StackFault BodyState} {plain : Except StackFault BodyState}
    (missing : context.scope.global? index = none → plain = .error (.globalIndex index))
    (follows : ∀ type, context.scope.global? index = some type → Mirrors Steady (next type) plain) :
    Mirrors Steady (globalAt names context index >>= next) plain := by
  unfold globalAt
  rw [bind_assoc]
  refine mirrors_lookup trivial missing ?_
  intro type held
  obtain ⟨inside, -⟩ := List.getElem?_eq_some_iff.mp held
  rw [fetch_inside names.cells (cells ▸ inside)]
  exact follows type held

omit steady in
lemma element_type_found {ε : Type} (module : Wasm.Module) (table : UInt32) :
    (elementType module table : Guarded ε ValueType) = .ok (Compile.elementType module table) := by
  unfold elementType Compile.elementType
  by_cases inside : table.toNat < module.tables.length
  · rw [if_pos inside, fetch_inside _ inside, getElem?_eq_getElem inside]
    rfl
  · rw [if_neg inside, getElem?_eq_none (Nat.le_of_not_lt inside)]
    rfl

variable (instruction : Instruction)

lemma inner_op_mirrors {op : Op} (cells : names.cells.length = context.scope.globals.length) (inner : op ≠ .endBlock) :
    Mirrors Steady (compileOp names context state instruction op) (Compile.compileOp context state instruction op) := by
  unfold compileOp Compile.compileOp
  cases unaryOf? op with
  | some found => exact unary_mirrors steady
  | none =>
  cases binaryOf? op with
  | some found => exact binary_mirrors steady
  | none =>
  dsimp only
  cases op with
  | endBlock => exact absurd rfl inner
  | load access | memoryGrow => exact unary_mirrors steady
  | store access | tableSet => exact effect2_mirrors steady
  | unreachable => exact closing_mirrors steady _
  | block => exact opened_mirrors steady context .block instruction nofun
  | loop => exact opened_mirrors steady context .loop instruction nofun
  | ifElse =>
    refine mirrors_pop steady fun condition next steady => ?_
    exact opened_mirrors steady context (.conditional condition.operand) instruction nofun
  | elseArm =>
    obtain ⟨frame, outer, frames, -⟩ := steady_top steady
    exact else_arm_mirrors steady frames
  | br => exact jump_mirrors steady _
  | brIf => exact branch_if_mirrors steady
  | brTable => exact branch_table_mirrors steady
  | ret =>
    refine mirrors_bind (top_operands_mirrors steady _ _) ?_
    intro values _
    exact closing_mirrors steady _
  | callIndirect =>
    refine mirrors_lookup trivial (fun missing => ?_) fun signature held => ?_
    · simp only [type?, missing]
      rfl
    simp only [type?, held]
    refine mirrors_pop steady fun index next steady => ?_
    exact call_mirrors steady _ signature
  | drop =>
    refine mirrors_pop steady fun value next steady => ?_
    exact mirrors_value next steady
  | select | selectTyped => exact select_mirrors steady
  | localGet | localSet | localTee =>
    refine mirrors_lookup trivial (fun missing => ?_) fun type held => ?_
    · simp only [local?, missing]
      rfl
    simp only [local?, held]
    first
    | exact mirrors_value _ (steady_push _ steady)
    | exact set_local_mirrors steady type _
  | globalGet =>
    refine global_found cells (fun missing => ?_) fun type held => ?_
    · simp only [missing]
      rfl
    simp only [held]
    exact nullary_mirrors steady
  | globalSet =>
    refine global_found cells (fun missing => ?_) fun type held => ?_
    · simp only [missing]
      rfl
    simp only [held]
    refine mirrors_pop steady fun value next steady => ?_
    exact act_mirrors steady
  | tableGet =>
    apply mirrors_guard _ (element_type_found context.module instruction.table)
    exact unary_mirrors steady
  | memorySize | tableSize => exact nullary_mirrors steady
  | const type =>
    rcases type with ⟨_ | _⟩ | ⟨_ | _⟩ <;> exact mirrors_value _ (steady_push _ steady)
  | convert _ => exact retype_mirrors steady
  | refNull | refFunc => exact mirrors_value _ (steady_push _ steady)
  | memoryCopy | memoryFill | tableFill => exact effect3_mirrors steady
  | tableGrow => exact binary_mirrors steady
  | _ => exact mirrors_value state steady

lemma compile_op_mirrors (op : Op) (cells : names.cells.length = context.scope.globals.length) :
    Mirrors Balanced (compileOp names context state instruction op) (Compile.compileOp context state instruction op) := by
  by_cases closes : op = .endBlock
  · rw [closes]
    exact end_block_mirrors steady
  · apply mirrors_weaken (inner_op_mirrors steady instruction cells closes)
    exact fun _ steady => steady.balanced

structure Fitting (names : Target.Names) (context : BodyContext) : Prop where
  typed : ∀ function ∈ context.module.functions, function.type.toNat < context.scope.types.length
  named : names.functionNames.length = context.module.functions.length
  cells : names.cells.length = context.scope.globals.length

lemma compile_call_mirrors (index : UInt32) (fitting : Fitting names context) :
    Mirrors Balanced (compileCall names context state index) (Compile.compileCall context state index) := by
  unfold compileCall Compile.compileCall
  refine mirrors_lookup nofun (fun missing => ?_) fun function held => ?_
  · simp only [missing]
    rfl
  obtain ⟨inside, -⟩ := List.getElem?_eq_some_iff.mp held
  have typed := fitting.typed function (List.mem_of_getElem? held)
  have signature : context.scope.type? function.type = some (context.scope.types.get ⟨_, typed⟩) := List.getElem?_eq_getElem typed
  simp only [held, signature]
  apply mirrors_guard _ (fetch_inside context.scope.types typed)
  have called : ∀ callee signature, Mirrors Balanced ((call state callee signature).mapError (Stop.map .stack))
        ((state.call callee signature).mapError BodyFault.stack) := by
    intro callee signature
    refine mirrors_map ?_ fun _ _ => nofun
    apply mirrors_weaken (call_mirrors steady callee signature)
    exact fun _ steady => steady.balanced
  by_cases imported : function.origin.isSome = true
  · simp only [if_pos imported]
    exact called _ _
  · simp only [if_neg imported]
    rw [fetch_inside names.functionNames (fitting.named ▸ inside)]
    exact called _ _

lemma compile_instruction_mirrors (fitting : Fitting names context) :
    Mirrors Balanced (compileInstruction names context state instruction)
      (Compile.compileInstruction context state instruction) := by
  unfold compileInstruction Compile.compileInstruction
  cases instruction.op? with
  | none => exact mirrors_refuse _ fun same => by cases same
  | some op =>
    by_cases calls : op = .call
    · rw [calls]
      exact compile_call_mirrors steady instruction.index fitting
    · simp only
      refine mirrors_map ?_ fun _ _ same => by cases same
      exact compile_op_mirrors steady instruction op fitting.cells

end Instructions

section Bodies

variable {names : Target.Names} {context : BodyContext} (fitting : Fitting names context)

omit fitting in
lemma skip_balanced {instruction : Instruction} (balanced : Balanced state)
    (skipped : skip? state instruction = some after) : Balanced after := by
  unfold skip? at skipped
  split at skipped
  all_goals first | cases skipped; exact balanced | skip
  all_goals
    split at skipped
    · cases skipped
      exact balanced
    · cases skipped

include fitting

lemma step_body_mirrors (state : BodyState) (instruction : Instruction) (balanced : Balanced state) :
    Mirrors Balanced (stepBody names context state instruction) (Compile.stepBody context state instruction) := by
  unfold stepBody Compile.stepBody
  cases frames : state.frames with
  | nil => exact mirrors_refuse _ nofun
  | cons frame outer =>
    have steady : Steady state := ⟨by rw [frames]; exact cons_ne_nil _ _, balanced⟩
    have reached := compile_instruction_mirrors steady instruction fitting
    have top : (top state).mapError (Stop.map BodyFault.stack) = .ok frame := by
      rw [top_found frames]
      rfl
    rw [if_neg (by simp)]
    apply mirrors_guard frame top
    dsimp only
    cases skipped : if frame.unreachable then skip? state instruction else none with
    | some next =>
      apply mirrors_value
      split at skipped
      · exact skip_balanced balanced skipped
      · cases skipped
    | none =>
      refine mirrors_bind reached ?_
      intro next balanced
      exact mirrors_value _ balanced

lemma run_body_mirrors (body : List Instruction) (offset : Nat) (state : BodyState)
    (balanced : Balanced state) : Tracks (runBody names context offset state body)
      (Compile.runBody context offset state body) := by
  induction body generalizing offset state with
  | nil =>
    unfold runBody Compile.runBody
    exact mirrors_ite (fun _ => mirrors_value state trivial) fun _ => mirrors_refuse _ nofun
  | cons instruction rest ih =>
    unfold runBody Compile.runBody
    have stepped := step_body_mirrors fitting state instruction balanced
    rw [stepped.same]
    cases done : Compile.stepBody context state instruction with
    | error fault => exact mirrors_refuse (offset, fault) (stepped.fault fault done)
    | ok next => exact ih (offset + 1) next (stepped.result next done)

end Bodies

lemma target_mirrors (labels : Labels) (depth : Int64) : Tracks (target labels depth) (labels.target depth) := by
  unfold target Labels.target
  refine mirrors_check _ trivial fun _ => ?_
  refine mirrors_lookup trivial (fun missing => ?_) fun label held => ?_
  · rw [missing]
    rfl
  rw [held]
  cases label with
  | zero => exact mirrors_value labels trivial
  | succ label => exact tracks_value _

lemma label_mirrors (labels : Labels) (instruction : Instruction) :
    Tracks (label labels instruction) (labels.step instruction) := by
  unfold label Labels.step
  cases instruction.op? with
  | none => exact mirrors_value labels trivial
  | some op =>
    cases op with
    | endBlock =>
      cases opened : labels.opened with
      | nil => exact mirrors_refuse _ trivial
      | cons first outer => exact tracks_value _
    | br | brIf => exact target_mirrors labels instruction.label
    | brTable =>
      refine mirrors_bind (mirrors_fold _ _ _ (fun labels depth _ => target_mirrors labels depth) labels trivial) ?_
      exact fun labels _ => target_mirrors labels instruction.default
    | _ => exact tracks_value _

lemma scan_mirrors (body : List Instruction) (offset : Nat) (labels : Labels) :
    Tracks (scan offset labels body) (Labels.scan offset labels body) := by
  induction body generalizing offset labels with
  | nil => exact mirrors_value labels trivial
  | cons instruction rest ih =>
    unfold scan Labels.scan
    rw [(label_mirrors labels instruction).same]
    cases labels.step instruction with
    | error fault => exact mirrors_refuse (offset, fault) trivial
    | ok next => exact ih (offset + 1) next

lemma initial_balanced (results : List ValueType) : Balanced (.initial results) := ⟨Nat.le_refl 0, iff_of_true rfl rfl, trivial⟩

lemma compile_body_mirrors {module : Wasm.Module} {scope : Wasm.Scope} {results : List ValueType}
    (fitting : ∀ targeted, Fitting names ⟨module, scope, results, targeted⟩) :
    Tracks (compileBody names module scope results body) (Compile.compileBody module scope results body) := by
  refine mirrors_bind (mirrors_map (scan_mirrors body 0 .initial) fun _ _ => nofun) ?_
  intro labels _
  refine mirrors_bind (run_body_mirrors (fitting labels.targeted) body 0 (.initial results) (initial_balanced results)) ?_
  intro state _
  exact tracks_value _

lemma steps_balanced (fitting : Fitting names context) (balanced : Balanced state)
    (done : body.foldlM (Compile.stepBody context) state = .ok after) : Balanced after := by
  have mirrored := mirrors_fold body (stepBody names context) (Compile.stepBody context)
    (fun state instruction => step_body_mirrors fitting state instruction) state balanced
  exact mirrored.result after done

end Guarded

structure Stacked (state : BodyState) : Prop where
  rising : (state.frames.reverse.map (·.height)).Pairwise (· ≤ ·)
  inside : ∀ frame ∈ state.frames, frame.height ≤ state.stack.length

variable {frames : List Frame}

lemma supported_below (length : Nat) (supported : Supported (frames.map Frame.outline) length) :
    ∀ frame ∈ frames, frame.height ≤ length := by
  induction frames generalizing length with
  | nil => exact nofun
  | cons first outer ih =>
    obtain ⟨low, -, around⟩ := supported
    intro frame member
    rcases mem_cons.mp member with same | later
    · rw [same]
      exact low
    · exact Nat.le_trans (ih first.height around frame later) low

lemma supported_rising (length : Nat) (supported : Supported (frames.map Frame.outline) length) :
    (frames.reverse.map (·.height)).Pairwise (· ≤ ·) := by
  induction frames generalizing length with
  | nil => exact .nil
  | cons first outer ih =>
    obtain ⟨-, -, around⟩ := supported
    rw [reverse_cons, map_append, pairwise_append]
    refine ⟨ih first.height around, pairwise_singleton _ _, ?_⟩
    intro height listed last same
    obtain ⟨frame, member, rfl⟩ := mem_map.mp listed
    cases mem_singleton.mp same
    exact supported_below first.height around frame (mem_reverse.mp member)

lemma balanced_stacked {state : BodyState} (balanced : Balanced state) : Stacked state :=
  ⟨supported_rising _ balanced, supported_below _ balanced⟩

end WasmLua.Compile
