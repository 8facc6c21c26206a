import WasmLua.Proofs.Body.Blocks
import WasmLua.Proofs.Safety.Guarded

namespace WasmLua.Compile

open Frame List
open Target (Action Arms Block Callee Computation Operand Stmt)
open Wasm (Instruction Signature ValueType)

namespace Guarded

instance : Reports StackFault := ⟨fun _ => True⟩

def top (state : BodyState) : Guarded StackFault Frame := fetch state.frames 0

def changeTop (state : BodyState) (change : Frame → Frame) : Guarded StackFault BodyState := do
  let frame ← top state
  return { state with frames := change frame :: state.frames.tail }

def emit (state : BodyState) (code : List Stmt) : Guarded StackFault BodyState :=
  changeTop state fun frame => { frame with code := code.reverse ++ frame.code }

def act (state : BodyState) (action : Action) : Guarded StackFault BodyState := emit state [.act action]

def setUnreachable (state : BodyState) : Guarded StackFault BodyState :=
  changeTop state fun frame => { frame with unreachable := true }

def pop (state : BodyState) : Guarded StackFault (Taken × BodyState) := do
  let frame ← top state
  if state.stack.length ≤ frame.height then refuse .underflow
  else
    let entry ← fetch state.stack 0
    return (⟨entry.type, entry.operand (state.stack.length - 1)⟩, { state with stack := state.stack.tail })

def popMany : Nat → BodyState → Guarded StackFault (List Operand × BodyState)
  | 0, state => return ([], state)
  | count + 1, state => do
    let (value, state) ← pop state
    let (deeper, state) ← popMany count state
    return (deeper ++ [value.operand], state)

def operandAt (stack : ValueStack) (slot : Nat) : Guarded StackFault Operand := do
  let above ← minus stack.length (slot + 1)
  return (← fetch stack above).operand slot

def topOperands (state : BodyState) (count : Nat) (fault : StackFault) : Guarded StackFault (List Operand) := do
  let frame ← top state
  if state.stack.length < count + frame.height then refuse fault
  else
    let first ← minus state.stack.length count
    (range count).mapM fun place => operandAt state.stack (first + place)

def cut (stack : ValueStack) (height : Nat) : Guarded StackFault ValueStack := do
  return stack.drop (← minus stack.length height)

def materialize (state : BodyState) (select : Nat → Operand → Bool) : Guarded StackFault BodyState := do
  let written := state.stack.materialize select
  return { ← emit state written.1 with stack := written.2 }

def materializeAll (state : BodyState) : Guarded StackFault BodyState := materialize state fun _ _ => true

def nullary (state : BodyState) (type : ValueType) (value : Computation) : Guarded StackFault BodyState :=
  act (state.push type) (.compute state.next value)

def unary (state : BodyState) (type : ValueType) (make : Operand → Computation) : Guarded StackFault BodyState := do
  let (a, state) ← pop state
  act (state.push type) (.compute state.next (make a.operand))

def binary (state : BodyState) (type : ValueType) (make : Operand → Operand → Computation) : Guarded StackFault BodyState := do
  let (b, state) ← pop state
  let (a, state) ← pop state
  act (state.push type) (.compute state.next (make a.operand b.operand))

def effect2 (state : BodyState) (make : Operand → Operand → Action) : Guarded StackFault BodyState := do
  let (b, state) ← pop state
  let (a, state) ← pop state
  act state (make a.operand b.operand)

def effect3 (state : BodyState) (make : Operand → Operand → Operand → Action) : Guarded StackFault BodyState := do
  let (c, state) ← pop state
  let (b, state) ← pop state
  let (a, state) ← pop state
  act state (make a.operand b.operand c.operand)

def branch (state : BodyState) (depth : Int64) : Guarded StackFault (List Stmt × BodyState) := do
  if depth.toInt < 0 then refuse (.branchDepth depth)
  else
    let levels := depth.toInt.toNat
    let frame ← lookup state.frames levels (.branchDepth depth)
    if frame.isFunction then
      let values ← topOperands state frame.arity .underflow
      return ([.ret values], state)
    else
      let values ← topOperands state frame.arity .underflowAtBranch
      let moves := ValueStack.moves frame.height values
      let inner ← (range levels).mapM (fetch state.frames)
      let outer := state.frames.drop (levels + 1)
      let frame := if frame.isLoop then frame else { frame with branched := true }
      if !frame.isLoop && !inner.any (·.lowered) then
        return (moves ++ [.leave], { state with frames := inner ++ frame :: outer })
      else
        let inner := inner.map fun between =>
          if between.lowered then { between with escapes := true } else between
        return (moves ++ [.setFlag frame.label, .leave], { state with
            frames := inner ++ { frame with flagSelf := true } :: outer
            flagged := state.flagged + 1
            usesFlag := true })

def jump (state : BodyState) (depth : Int64) : Guarded StackFault BodyState := do
  let (code, state) ← branch state depth
  setUnreachable (← emit state code)

def branchIf (state : BodyState) (depth : Int64) : Guarded StackFault BodyState := do
  let (condition, state) ← pop state
  match condition.constant? with
  | some value => if value == 0 then return state else jump state depth
  | none =>
    let (code, state) ← branch state depth
    emit state [.choose (.arm (.value (.nonzero condition.operand)) (.ofList code) .none)]

def tableArms (index : Operand) (labels : List Int64) (otherwise : Int64) :
    List BodyState.Run → BodyState → Guarded StackFault (Arms × BodyState)
  | [], state => do
    let (code, state) ← branch state otherwise
    return (.otherwise (.ofList code), state)
  | run :: rest, state => do
    let label ← fetch labels run.first
    let (code, state) ← branch state label
    let (arms, state) ← tableArms index labels otherwise rest state
    return (.arm (.value (run.test index)) (.ofList code) arms, state)

def tableTarget (labels : List Int64) (otherwise : Int64) (index : Int32) : Guarded StackFault Int64 :=
  if index.toUInt32.toNat < labels.length then fetch labels index.toUInt32.toNat else return otherwise

def branchTable (state : BodyState) (labels : List Int64) (otherwise : Int64) : Guarded StackFault BodyState := do
  let (index, state) ← pop state
  match index.constant? with
  | some value => jump state (← tableTarget labels otherwise value)
  | none =>
    match (BodyState.runs 0 labels).filter (·.label != otherwise) with
    | [] => jump state otherwise
    | different =>
      let (arms, state) ← tableArms index.operand labels otherwise different state
      setUnreachable (← emit state [.choose arms])

def select (state : BodyState) : Guarded StackFault BodyState := do
  let (condition, state) ← pop state
  let (b, state) ← pop state
  let (a, state) ← pop state
  let slot := state.next
  match condition.constant? with
  | some value =>
    if value != 0 then return state.pushEntry ⟨a.type, some a.operand⟩
    else
      let state := state.push a.type
      if b.operand == .slot slot then return state else act state (.setSlot slot b.operand)
  | none =>
    let second := Block.ofList [.act (.setSlot slot b.operand)]
    let rest : Arms :=
      if a.operand == .slot slot then .none
      else .otherwise (.ofList [.act (.setSlot slot a.operand)])
    emit (state.push a.type) [.choose (.arm (.value (.zero condition.operand)) second rest)]

def call (state : BodyState) (callee : Callee) (signature : Signature) : Guarded StackFault BodyState := do
  let (args, state) ← popMany signature.params.length state
  act (state.pushAll signature.results) (.call state.next signature.results.length callee args)

def enter (state : BodyState) (context : BodyContext) (kind : FrameKind) (instruction : Instruction) : Guarded StackFault BodyState :=
  match instruction.blockType? context.scope with
  | none => refuse .blockType
  | some type => do
    let frame ← top state
    if state.stack.length < type.params.length + frame.height then
      refuse (.underflowAt instruction.opText)
    else
      let height ← minus state.stack.length type.params.length
      let fresh := opening kind state.nextLabel height type (context.targeted.contains state.nextLabel)
      return { state with frames := fresh :: state.frames, nextLabel := state.nextLabel + 1 }

def endValues (state : BodyState) (frame : Frame) : Guarded StackFault BodyState := do
  let above ← minus state.stack.length frame.height
  if state.stack.length != frame.height + frame.results.length then
    refuse (.resultCount frame.results.length above)
  else materialize state fun slot _ => frame.height ≤ slot

def ended (state : BodyState) (frame : Frame) : Guarded StackFault BodyState :=
  if frame.unreachable then return state else endValues state frame

def elseArm (state : BodyState) : Guarded StackFault BodyState := do
  let frame ← top state
  if frame.refusesElse then refuse .elseWithoutIf
  else
    let state ← ended state frame
    let state ← changeTop state fun frame =>
      { frame with
        thenArm := some (frame.body, !frame.unreachable)
        unreachable := false
        code := [] }
    let stack ← cut state.stack frame.height
    return { state with stack := stack }.pushAll frame.params

def finish (state : BodyState) (frame : Frame) : Guarded StackFault BodyState :=
  if frame.unreachable || frame.results.isEmpty then return state
  else do
    let values ← topOperands state frame.results.length .underflow
    emit state [.ret values]

def endBlock (state : BodyState) : Guarded StackFault BodyState := do
  let frame ← top state
  if frame.isFunction then
    let state ← finish state frame
    return { state with frames := [], finished := (← top state).close }
  else
    let outer := state.frames.tail
    let state ← ended state frame
    let frame ← top state
    let stack ← cut state.stack frame.height
    let state ← emit { state with frames := outer, stack := stack } frame.close
    changeTop (state.pushAll frame.results) fun parent =>
      { parent with unreachable := !frame.continues }

end Guarded

def Frame.outline (frame : Frame) : Nat × Bool := (frame.height, frame.isFunction)

/-- Blocks, innermost first, each of which starts no lower than the one around it and no higher than
the stack; only the outermost is the function. -/
def Supported : List (Nat × Bool) → Nat → Prop
  | [], _ => True
  | (height, function) :: outer, length =>
    height ≤ length ∧ (function = true ↔ outer = []) ∧ Supported outer height

def Balanced (state : BodyState) : Prop := Supported (state.frames.map outline) state.stack.length

structure Steady (state : BodyState) : Prop where
  opened : state.frames ≠ []
  balanced : Balanced state

variable {state : BodyState}

lemma steady_top (steady : Steady state) : ∃ frame outer, state.frames = frame :: outer ∧ state.height = frame.height ∧
      frame.height ≤ state.stack.length ∧ (frame.isFunction = true ↔ outer = []) ∧
      Supported (outer.map outline) frame.height := by
  obtain ⟨opened, balanced⟩ := steady
  cases frames : state.frames with
  | nil => exact absurd frames opened
  | cons frame outer =>
    rw [Balanced, frames] at balanced
    obtain ⟨low, only, around⟩ := balanced
    refine ⟨frame, outer, rfl, by rw [BodyState.height, frames], low, ?_, around⟩
    rwa [map_eq_nil_iff] at only

lemma steady_keeps (next : BodyState) (steady : Steady state) (same : next.frames.map outline = state.frames.map outline)
    (enough : state.height ≤ next.stack.length) : Steady next := by
  obtain ⟨frame, outer, frames, height, -, -, -⟩ := steady_top steady
  have balanced := steady.balanced
  refine ⟨?_, ?_⟩
  · intro closed
    rw [closed, frames] at same
    cases same
  · rw [Balanced, same]
    rw [Balanced, frames] at balanced
    rw [frames]
    exact ⟨height ▸ enough, balanced.2⟩

lemma steady_low (steady : Steady state) : state.height ≤ state.stack.length := by
  obtain ⟨frame, outer, -, height, low, -, -⟩ := steady_top steady
  omega

variable {change : Frame → Frame}

lemma steady_change (steady : Steady state)
    (keeps : ∀ frame, (change frame).outline = frame.outline) : Steady (state.modifyTop change) := by
  obtain ⟨frame, outer, frames, -, -, -, -⟩ := steady_top steady
  have changed : state.modifyTop change = { state with frames := change frame :: outer } := by
    simp only [BodyState.modifyTop, frames]
  rw [changed]
  refine steady_keeps _ steady ?_ (steady_low steady)
  rw [frames, map_cons, map_cons, keeps]

lemma BodyState.change_stack : (state.modifyTop change).stack = state.stack := by
  unfold BodyState.modifyTop
  cases state.frames <;> rfl

lemma steady_emit (code : List Stmt) (steady : Steady state) : Steady (state.emit code) := steady_change steady fun _ => rfl

lemma steady_push (entry : Entry) (steady : Steady state) : Steady (state.pushEntry entry) := by
  refine steady_keeps (state.pushEntry entry) steady rfl ?_
  have low := steady_low steady
  simp only [BodyState.pushEntry, length_cons]
  omega

lemma steady_push_all (types : List ValueType) (steady : Steady state) : Steady (state.pushAll types) := by
  induction types generalizing state with
  | nil => exact steady
  | cons type rest ih => exact ih (steady_push _ steady)

lemma steady_materialize (select : Nat → Operand → Bool) (steady : Steady state) : Steady (state.materialize select) := by
  have emitted := steady_emit (state.stack.materialize select).1 steady
  apply steady_keeps (state.materialize select) emitted rfl
  have low := steady_low emitted
  rw [BodyState.emit_stack] at low
  simp only [BodyState.materialize, ValueStack.materialize_length]
  exact low

namespace Guarded

variable {state : BodyState} {depth : Int64} {code : List Stmt} {labels : List Int64} {type : ValueType}

lemma top_found {frame : Frame} {outer : List Frame} (frames : state.frames = frame :: outer) : top state = .ok frame := by
  rw [top, frames]
  rfl

section Steady

variable (steady : Steady state)

include steady

omit steady in
lemma cut_trims {stack : ValueStack} {height : Nat} (low : height ≤ stack.length) :
    cut stack height = .ok (stack.trim height) := by
  rw [cut, minus_le low]
  rfl

lemma changed_top : changeTop state change = .ok (state.modifyTop change) := by
  obtain ⟨frame, outer, frames, -⟩ := steady_top steady
  rw [changeTop, top_found frames]
  simp only [BodyState.modifyTop, frames]
  rfl

lemma emitted (code : List Stmt) : emit state code = .ok (state.emit code) := changed_top steady

lemma act_mirrors {action : Action} : Mirrors Steady (act state action) (.ok (state.act action)) := by
  rw [act, emitted steady]
  exact mirrors_value _ (steady_emit _ steady)

lemma closing_mirrors (code : List Stmt) :
    Mirrors Steady (do setUnreachable (← emit state code)) (.ok (state.emit code).setUnreachable) := by
  have steady' := steady_emit code steady
  apply mirrors_guard _ (emitted steady code)
  rw [setUnreachable, changed_top steady']
  exact mirrors_value _ (steady_change steady' fun _ => rfl)

lemma materialized (select : Nat → Operand → Bool) : materialize state select = .ok (state.materialize select) := by
  rw [materialize, emitted steady]
  rfl

lemma pop_mirrors : Mirrors (fun taken => Steady taken.2) (pop state) state.pop := by
  obtain ⟨frame, outer, frames, height, low, -, -⟩ := steady_top steady
  apply mirrors_guard frame (top_found frames)
  unfold BodyState.pop
  cases held : state.stack with
  | nil => exact mirrors_refuse _ trivial
  | cons entry rest =>
    simp only [length_cons, height]
    by_cases empty : rest.length < frame.height
    · rw [if_pos (by omega), if_pos empty]
      exact mirrors_refuse _ trivial
    · rw [if_neg (by omega), if_neg empty]
      apply mirrors_value
      exact steady_keeps _ steady rfl (by rw [height]; exact Nat.le_of_not_lt empty)

lemma mirrors_pop {after : β → Prop} {next : Taken × BodyState → Guarded StackFault β} {plain : Taken × BodyState → Except StackFault β}
    (follows : ∀ value last, Steady last → Mirrors after (next (value, last)) (plain (value, last))) :
    Mirrors after (pop state >>= next) (state.pop >>= plain) :=
  mirrors_bind (pop_mirrors steady) fun (value, last) steady => follows value last steady

omit steady in
lemma pop_many_mirrors {count : Nat} (steady : Steady state) :
    Mirrors (fun taken => Steady taken.2) (popMany count state) (BodyState.popMany count state) := by
  induction count generalizing state with
  | zero => exact mirrors_value _ steady
  | succ count ih =>
    refine mirrors_pop steady fun value next steady => ?_
    refine mirrors_bind (ih steady) ?_
    rintro ⟨deeper, last⟩ steady
    exact mirrors_value _ steady

omit steady in
lemma slots_read {stack : ValueStack} {count : Nat} (inside : count ≤ stack.length) :
    (range count).mapM (fun place => operandAt stack (stack.length - count + place)) = .ok (stack.top count) := by
  induction count with
  | zero => rfl
  | succ count ih =>
    obtain ⟨entry, rest, split⟩ : ∃ entry rest, stack.drop count = entry :: rest :=
      exists_cons_of_length_pos (by rw [length_drop]; omega)
    have below : rest.length = stack.length - (count + 1) := by
      have length := congrArg length split
      rw [length_drop, length_cons] at length
      omega
    have held : stack[count]? = some entry := by
      rw [← Nat.add_zero count, ← List.getElem?_drop, split, List.getElem?_cons_zero]
    have lowest : operandAt stack (stack.length - (count + 1) + 0) = .ok (entry.operand rest.length) := by
      rw [operandAt, minus_le (by omega), Nat.add_zero, ← below]
      have place : stack.length - (rest.length + 1) = count := by omega
      change (fetch stack (stack.length - (rest.length + 1)) >>= _) = _
      rw [place, fetch_held stack count held]
      rfl
    have others : (fun place => operandAt stack (stack.length - (count + 1) + place)) ∘ Nat.succ
        = fun place => operandAt stack (stack.length - count + place) := by
      funext place
      simp only [Function.comp_apply]
      congr 1
      omega
    have shown : stack.top (count + 1) = entry.operand rest.length :: stack.top count := by
      rw [ValueStack.top_add, split]
      rfl
    rw [range_succ_eq_map, mapM_cons, lowest, mapM_map, others, ih (by omega), shown]
    rfl

lemma top_operands_mirrors (count : Nat) (fault : StackFault) :
    Tracks (topOperands state count fault) (state.topOperands count fault) := by
  obtain ⟨frame, outer, frames, height, low, -, -⟩ := steady_top steady
  apply mirrors_guard frame (top_found frames)
  unfold BodyState.topOperands
  rw [height]
  refine mirrors_check fault trivial fun enough => ?_
  apply mirrors_guard _ (minus_le (by omega))
  rw [slots_read (by omega)]
  exact tracks_value _

omit steady in
lemma outlines_kept {first second : List Frame} (kept : List.Forall₂ Frame.Keeps first second) :
    second.map outline = first.map outline := by
  induction kept with
  | nil => rfl
  | cons keeps _ ih =>
    rw [map_cons, map_cons, ih, outline, outline, keeps.height, isFunction, isFunction, keeps.kind]

lemma steady_branch {after : BodyState} (done : state.branch depth = .ok (code, after)) : Steady after := by
  have steers := branch_steers done
  exact steady_keeps after steady (outlines_kept steers.keeps) (by rw [steers.stack]; exact steady_low steady)

lemma branch_mirrors (depth : Int64) : Mirrors (fun made => Steady made.2) (branch state depth) (state.branch depth) := by
  refine ⟨?_, fun made done => steady_branch steady done, fun _ _ => trivial⟩
  unfold branch BodyState.branch
  by_cases negative : depth.toInt < 0
  · simp only [if_pos negative]
    rfl
  simp only [if_neg negative]
  cases found : state.frames[depth.toInt.toNat]? with
  | none =>
    rw [lookup_missing _ found]
    rfl
  | some frame =>
    obtain ⟨inside, -⟩ := List.getElem?_eq_some_iff.mp found
    have around := fetched_range (ε := StackFault) state.frames depth.toInt.toNat (Nat.le_of_lt inside)
    rw [lookup_held _ found]
    rw [bind_value]
    by_cases outermost : frame.isFunction
    · simp only [if_pos outermost]
      rw [(top_operands_mirrors steady frame.arity .underflow).same]
      cases state.topOperands frame.arity .underflow <;> rfl
    · simp only [if_neg outermost]
      rw [(top_operands_mirrors steady frame.arity .underflowAtBranch).same]
      cases state.topOperands frame.arity .underflowAtBranch with
      | error fault => rfl
      | ok values =>
        have folded : (if frame.isLoop then frame else { frame with branched := true }) = frame.reached := rfl
        simp only [Except.mapError, bind_value, around, folded]
        by_cases direct : (!frame.reached.isLoop && !(state.frames.take depth.toInt.toNat).any (·.lowered)) = true
        · simp only [if_pos direct]
          rfl
        · simp only [if_neg direct]
          rfl

lemma jump_mirrors (depth : Int64) : Mirrors Steady (jump state depth) (state.jump depth) := by
  refine mirrors_bind (branch_mirrors steady depth) ?_
  rintro ⟨code, next⟩ steady
  exact closing_mirrors steady code

lemma branch_if_mirrors : Mirrors Steady (branchIf state depth) (state.branchIf depth) := by
  refine mirrors_pop steady fun condition next steady => ?_
  dsimp only
  cases condition.constant? with
  | some value =>
    exact mirrors_ite (fun _ => mirrors_value next steady) fun _ => jump_mirrors steady depth
  | none =>
    refine mirrors_bind (branch_mirrors steady depth) ?_
    rintro ⟨code, last⟩ steady
    rw [emitted steady]
    exact mirrors_value _ (steady_emit _ steady)

omit steady in
lemma table_arms_mirrors {index : Operand} (otherwise : Int64) {runs : List BodyState.Run}
    (listed : ∀ run ∈ runs, labels[run.first]? = some run.label) (steady : Steady state) :
    Mirrors (fun made => Steady made.2) (tableArms index labels otherwise runs state)
      (BodyState.tableArms index otherwise runs state) := by
  induction runs generalizing state with
  | nil =>
    refine mirrors_bind (branch_mirrors steady otherwise) ?_
    rintro ⟨code, next⟩ steady
    exact mirrors_value _ steady
  | cons run rest ih =>
    obtain ⟨first, others⟩ := forall_mem_cons.mp listed
    apply mirrors_guard run.label (fetch_held labels run.first first)
    refine mirrors_bind (branch_mirrors steady run.label) ?_
    rintro ⟨code, next⟩ steady
    refine mirrors_bind (ih others steady) ?_
    rintro ⟨arms, last⟩ steady
    exact mirrors_value _ steady

omit steady in
lemma table_target_found (labels : List Int64) (otherwise : Int64) (index : Int32) :
    tableTarget labels otherwise index = .ok (BodyState.tableTarget labels otherwise index) := by
  unfold tableTarget BodyState.tableTarget
  by_cases inside : index.toUInt32.toNat < labels.length
  · rw [if_pos inside, fetch_inside labels inside, List.getElem?_eq_getElem inside]
    rfl
  · rw [if_neg inside, List.getElem?_eq_none (Nat.le_of_not_lt inside)]
    rfl

lemma branch_table_mirrors {otherwise : Int64} :
    Mirrors Steady (branchTable state labels otherwise) (state.branchTable labels otherwise) := by
  refine mirrors_pop steady fun index next steady => ?_
  dsimp only
  cases index.constant? with
  | some value =>
    apply mirrors_guard _ (table_target_found labels otherwise value)
    exact jump_mirrors steady _
  | none =>
    have listed : ∀ run ∈ (BodyState.runs 0 labels).filter (·.label != otherwise), labels[run.first]? = some run.label := by
      intro run member
      exact BodyState.runs_label labels run (mem_filter.mp member).1
    cases different : (BodyState.runs 0 labels).filter (·.label != otherwise) with
    | nil => exact jump_mirrors steady otherwise
    | cons run rest =>
      rw [different] at listed
      refine mirrors_bind (table_arms_mirrors otherwise listed steady) ?_
      rintro ⟨arms, last⟩ steady
      exact closing_mirrors steady _

lemma unary_mirrors {make : Operand → Computation} : Mirrors Steady (unary state type make) (state.unary type make) := by
  refine mirrors_pop steady fun a next steady => ?_
  exact act_mirrors (steady_push _ steady)

lemma binary_mirrors {make : Operand → Operand → Computation} :
    Mirrors Steady (binary state type make) (state.binary type make) := by
  refine mirrors_pop steady fun b next steady => ?_
  refine mirrors_pop steady fun a last steady => ?_
  exact act_mirrors (steady_push _ steady)

lemma nullary_mirrors {value : Computation} : Mirrors Steady (nullary state type value) (.ok (state.nullary type value)) :=
  act_mirrors (steady_push _ steady)

lemma effect2_mirrors {make : Operand → Operand → Action} : Mirrors Steady (effect2 state make) (state.effect2 make) := by
  refine mirrors_pop steady fun b next steady => ?_
  refine mirrors_pop steady fun a last steady => ?_
  exact act_mirrors steady

lemma effect3_mirrors {make : Operand → Operand → Operand → Action} :
    Mirrors Steady (effect3 state make) (state.effect3 make) := by
  refine mirrors_pop steady fun c next steady => ?_
  refine mirrors_pop steady fun b further steady => ?_
  refine mirrors_pop steady fun a last steady => ?_
  exact act_mirrors steady

lemma select_mirrors : Mirrors Steady (select state) state.select := by
  refine mirrors_pop steady fun condition next steady => ?_
  refine mirrors_pop steady fun b further steady => ?_
  refine mirrors_pop steady fun a last steady => ?_
  dsimp only
  cases condition.constant? with
  | some value =>
    refine mirrors_ite (fun _ => mirrors_value _ (steady_push _ steady)) fun _ => ?_
    have pushed := steady_push ⟨a.type, none⟩ steady
    cases place : b.operand == .slot last.next with
    | true =>
      simp only [Comparison.structural_slot, place, if_true]
      exact mirrors_value _ pushed
    | false =>
      simp only [Comparison.structural_slot, place]
      exact act_mirrors pushed
  | none =>
    have pushed := steady_push ⟨a.type, none⟩ steady
    simp only [BodyState.push]
    rw [emitted pushed]
    exact mirrors_value _ (steady_emit _ pushed)

lemma call_mirrors (callee : Callee) (signature : Signature) :
    Mirrors Steady (call state callee signature) (state.call callee signature) := by
  refine mirrors_bind (pop_many_mirrors steady) ?_
  rintro ⟨args, next⟩ steady
  exact act_mirrors (steady_push_all _ steady)

lemma enter_mirrors (context : BodyContext) {kind : FrameKind} (instruction : Instruction) (inner : kind ≠ .function) :
    Mirrors Steady (enter state context kind instruction) (state.enter context kind instruction) := by
  obtain ⟨frame, outer, frames, height, low, -, -⟩ := steady_top steady
  unfold enter BodyState.enter
  cases instruction.blockType? context.scope with
  | none => exact mirrors_refuse _ trivial
  | some type =>
    apply mirrors_guard frame (top_found frames)
    simp only [height]
    refine mirrors_check _ trivial fun enough => ?_
    apply mirrors_guard _ (minus_le (by omega))
    apply mirrors_value
    refine ⟨cons_ne_nil _ _, Nat.sub_le _ _, ?_, ?_⟩
    · rw [frames]
      cases kind <;> simp [opening, isFunction] at inner ⊢
    · have balanced := steady.balanced
      rw [Balanced, frames] at balanced
      rw [frames]
      exact ⟨by simp only [opening]; omega, balanced.2⟩

end Steady

structure Within (frame : Frame) (outer : List Frame) (state : BodyState) : Prop where
  steady : Steady state
  frames : ∃ last, state.frames = last :: outer ∧ last.height = frame.height

section Within

variable {frame : Frame} {outer : List Frame} (within : Within frame outer state)

include within

lemma within_height : state.height = frame.height := by
  obtain ⟨-, last, frames, height⟩ := within
  rw [BodyState.height, frames]
  exact height

lemma within_low : frame.height ≤ state.stack.length := within_height within ▸ steady_low within.steady

lemma within_emit : Within frame outer (state.emit code) := by
  obtain ⟨steady, last, frames, height⟩ := within
  refine ⟨steady_emit code steady, { last with code := code.reverse ++ last.code }, ?_, height⟩
  simp only [BodyState.emit, BodyState.modifyTop, frames]

lemma end_values_mirrors : Mirrors (Within frame outer) (endValues state frame) (state.endValues frame) := by
  apply mirrors_guard _ (minus_le (within_low within))
  unfold BodyState.endValues
  refine mirrors_check _ trivial fun _ => ?_
  rw [materialized within.steady]
  exact mirrors_value _ ⟨steady_materialize _ within.steady, (within_emit within).frames⟩

lemma ended_mirrors : Mirrors (Within frame outer) (ended state frame)
      (if frame.unreachable then pure state else state.endValues frame) := by
  unfold ended
  exact mirrors_ite (fun _ => mirrors_value state within) fun _ => end_values_mirrors within

omit within in
lemma finish_bind {rest : BodyState → Except StackFault BodyState} :
    (if (frame.unreachable || frame.results.isEmpty) = true then pure state >>= rest
      else state.topOperands frame.results.length .underflow >>= fun values =>
        pure (state.emit [.ret values]) >>= rest)
      = (if frame.unreachable || frame.results.isEmpty then pure state
        else state.topOperands frame.results.length .underflow >>= fun values =>
          pure (state.emit [.ret values])) >>= rest := by
  split
  · rfl
  · cases state.topOperands frame.results.length .underflow <;> rfl

lemma finish_mirrors : Mirrors (Within frame outer) (finish state frame)
      (if frame.unreachable || frame.results.isEmpty then pure state
        else state.topOperands frame.results.length .underflow >>= fun values =>
          pure (state.emit [.ret values])) := by
  unfold finish
  refine mirrors_ite (fun _ => mirrors_value state within) fun _ => ?_
  refine mirrors_bind (top_operands_mirrors within.steady _ _) ?_
  intro values _
  rw [emitted within.steady]
  exact mirrors_value _ (within_emit within)

lemma steady_divide : Steady (state.divide frame.height) := by
  have height := within_height within
  have low := within_low within
  obtain ⟨steady, last, frames, -⟩ := within
  simp only [BodyState.divide, BodyState.modifyTop, frames]
  refine steady_keeps _ steady (by rw [frames]; rfl) ?_
  rw [height]
  exact Nat.le_of_eq (trim_length state.stack frame.height low).symm

end Within

section Steady

variable {state : BodyState} (steady : Steady state) {frame : Frame} {outer : List Frame} (frames : state.frames = frame :: outer)

include steady frames

lemma else_arm_mirrors : Mirrors Steady (elseArm state) state.elseArm := by
  have within : Within frame outer state := ⟨steady, frame, frames, rfl⟩
  rw [else_eq frames]
  apply mirrors_guard frame (top_found frames)
  refine mirrors_check _ trivial fun _ => ?_
  refine mirrors_bind (ended_mirrors within) ?_
  intro last within
  have low := within_low within
  apply mirrors_guard _ (changed_top within.steady)
  apply mirrors_guard _ (cut_trims (by rwa [BodyState.change_stack]))
  exact mirrors_value _ (steady_push_all _ (steady_divide within))

lemma end_function_mirrors (outermost : frame.isFunction = true) : Mirrors Balanced (endBlock state) state.endBlock := by
  apply mirrors_guard frame (top_found frames)
  unfold BodyState.endBlock
  rw [frames, if_pos outermost]
  simp only [if_pos outermost]
  rw [finish_bind]
  refine mirrors_bind (finish_mirrors ⟨steady, frame, frames, rfl⟩) ?_
  intro finished within
  obtain ⟨steady, last, frames, -⟩ := within
  apply mirrors_guard _ (top_found frames)
  simp only [frames]
  exact mirrors_value _ trivial

lemma end_inner_mirrors (inner : ¬ frame.isFunction = true) : Mirrors Balanced (endBlock state) state.endBlock := by
  obtain ⟨_, _, split, -, -, only, around⟩ := steady_top steady
  cases frames.symm.trans split
  have opened : outer ≠ [] := fun closed => inner (only.mpr closed)
  apply mirrors_guard frame (top_found frames)
  unfold BodyState.endBlock
  rw [frames, if_neg inner]
  simp only [if_neg inner]
  rw [ended_bind]
  refine mirrors_bind (ended_mirrors ⟨steady, frame, frames, rfl⟩) ?_
  intro ended within
  have low := within_low within
  obtain ⟨steady, last, frames, height⟩ := within
  have trimmed : Steady { ended with frames := outer, stack := ended.stack.trim last.height } := by
    refine ⟨opened, ?_⟩
    rw [Balanced, trim_length ended.stack last.height (height ▸ low), height]
    exact around
  apply mirrors_guard _ (top_found frames)
  apply mirrors_guard _ (cut_trims (height ▸ low))
  apply mirrors_guard _ (emitted trimmed last.close)
  rw [frames]
  have closed := steady_push_all last.results (steady_emit last.close trimmed)
  rw [changed_top closed]
  apply mirrors_value
  refine (steady_change closed ?_).balanced
  exact fun _ => rfl

end Steady

lemma end_block_mirrors (steady : Steady state) : Mirrors Balanced (endBlock state) state.endBlock := by
  obtain ⟨frame, outer, frames, -⟩ := steady_top steady
  by_cases outermost : frame.isFunction = true
  · exact end_function_mirrors steady frames outermost
  · exact end_inner_mirrors steady frames outermost

end Guarded

end WasmLua.Compile
