import WasmLua.Proofs.Body.Operations

namespace WasmLua.Wasm

def Op.isControl : Op → Bool
  | .unreachable | .block | .loop | .ifElse | .elseArm | .endBlock | .br | .brIf | .brTable | .ret =>
    true
  | _ => false

namespace Instruction

def isControl (instruction : Instruction) : Bool := instruction.op?.any (·.isControl)

def Bound (instruction : Instruction) (scope : Scope) : Prop :=
  match instruction.op? with
  | some .localGet | some .localSet | some .localTee => (scope.local? instruction.index).isSome
  | some .globalGet | some .globalSet => (scope.global? instruction.index).isSome
  | _ => True

lemma effect_unknown (instruction : Instruction) :
    (∀ scope, (instruction.stackEffect scope).known = false) ↔ instruction.op? = none := by
  constructor
  · intro unknown
    -- One function of the one type stands at every index up to that of the instruction.
    have absent := unknown ⟨[], [], List.replicate (instruction.index.toNat + 1) 0,
      List.replicate (instruction.index.toNat + 1) ⟨[], []⟩, 0, 0⟩
    cases found : instruction.op? with
    | none => rfl
    | some op => cases op <;> simp [stackEffect, found, Scope.function?, Scope.type?] at absent
  · intro none scope
    rw [stackEffect, none]

end Instruction

end WasmLua.Wasm

namespace WasmLua.Compile

open Target (Action Callee Computation Operand)
open Wasm (Instruction Op Signature ValueType)

/-- A value of the stack stays as it is, or moves to the slot of its position. -/
def Entry.Settles (entry later : Entry) : Prop := later = entry ∨ later = ⟨entry.type, none⟩

lemma materialize_settles (select : Nat → Operand → Bool) (stack : ValueStack) :
    List.Forall₂ Entry.Settles stack (ValueStack.materialize select stack).2 := by
  induction stack with
  | nil => exact .nil
  | cons entry rest ih =>
    rw [ValueStack.materialize]
    cases deferred : entry.deferred with
    | none => exact .cons (.inl rfl) ih
    | some operand =>
      by_cases selected : select rest.length operand
      · simp only [selected, if_true]
        exact .cons (.inr rfl) ih
      · simp only [selected]
        exact .cons (.inl rfl) ih

namespace BodyState

structure Trades (state : BodyState) (pops pushes : Nat) (after : BodyState) : Prop where
  length : after.stack.length = state.stack.length - pops + pushes
  lower : List.Forall₂ Entry.Settles (state.stack.drop pops) (after.stack.drop pushes)

/-- How an operation ends that takes `pops` values and leaves `pushes` of its own. -/
structure Effect (state : BodyState) (pops pushes : Nat) (result : Except StackFault BodyState) :
    Prop where
  lacking : state.stack.length - state.height < pops → result = .error .underflow
  enough : pops ≤ state.stack.length - state.height →
    ∃ after, result = .ok after ∧ Trades state pops pushes after

variable {state after : BodyState} {pops pushes : Nat}

lemma effect_done (trades : Trades state 0 pushes after) : Effect state 0 pushes (.ok after) :=
  ⟨fun short => absurd short (Nat.not_lt_zero _), fun _ => ⟨after, rfl, trades⟩⟩

lemma effect_pop {next : Taken × BodyState → Except StackFault BodyState}
    (rest : ∀ taken popped, Effect popped pops pushes (next (taken, popped))) :
    Effect state (pops + 1) pushes (state.pop >>= next) := by
  cases stack : state.stack with
  | nil =>
    have fails : state.pop = .error .underflow := by simp only [pop, stack, throw, throwThe, MonadExceptOf.throw]
    rw [fails]
    refine ⟨fun _ => rfl, fun high => ?_⟩
    rw [stack, List.length_nil] at high
    omega
  | cons entry below =>
    have length : state.stack.length = below.length + 1 := by rw [stack, List.length_cons]
    by_cases low : below.length < state.height
    · have fails : state.pop = .error .underflow := by
        simp only [pop, stack, if_pos low, throw, throwThe, MonadExceptOf.throw]
      rw [fails]
      exact ⟨fun _ => rfl, fun high => by omega⟩
    · have popped : state.pop = .ok (⟨entry.type, entry.operand below.length⟩, { state with stack := below }) := by
        simp only [pop, stack, if_neg low, pure, Except.pure]
      obtain ⟨lacking, enough⟩ := rest ⟨entry.type, entry.operand below.length⟩
        { state with stack := below }
      rw [popped]
      refine ⟨fun short => lacking ?_, fun high => ?_⟩
      · show below.length - state.height < pops
        omega
      · have room : pops ≤ below.length - state.height := by omega
        obtain ⟨after, done, trades⟩ := enough room
        have size : after.stack.length = below.length - pops + pushes := trades.length
        refine ⟨after, done, by omega, ?_⟩
        rw [stack, List.drop_succ_cons]
        exact trades.lower

lemma trades_settled (values : ValueStack) {lower : ValueStack} (pushed : after.stack = values ++ lower)
    (settles : List.Forall₂ Entry.Settles state.stack lower) :
    Trades state 0 values.length after where
  length := by
    rw [pushed, List.length_append, ← settles.length_eq]
    omega
  lower := by
    rw [pushed, List.drop_left, List.drop_zero]
    exact settles

lemma trades_pushed (values : ValueStack) (pushed : after.stack = values ++ state.stack) : Trades state 0 values.length after :=
  trades_settled values pushed (List.forall₂_same.2 fun _ _ => .inl rfl)

section

variable (state : BodyState)

lemma act_stack (action : Action) : (state.act action).stack = state.stack := emit_stack state _

lemma nullary_effect (type : ValueType) (value : Computation) :
    Effect state 0 1 (.ok (state.nullary type value)) :=
  effect_done (trades_pushed [⟨type, none⟩] (act_stack _ _))

lemma entry_effect (entry : Entry) : Effect state 0 1 (.ok (state.pushEntry entry)) :=
  effect_done (trades_pushed [entry] rfl)

lemma act_effect (action : Action) : Effect state 0 0 (.ok (state.act action)) :=
  effect_done (trades_pushed [] (act_stack _ _))

lemma unary_effect (type : ValueType) (make : Operand → Computation) :
    Effect state 1 1 (state.unary type make) :=
  effect_pop fun _ popped => nullary_effect popped type _

lemma effect2_effect (make : Operand → Operand → Action) : Effect state 2 0 (state.effect2 make) :=
  effect_pop fun _ _ => effect_pop fun _ popped => act_effect popped _

lemma effect3_effect (make : Operand → Operand → Operand → Action) : Effect state 3 0 (state.effect3 make) :=
  effect_pop fun _ _ => effect_pop fun _ _ => effect_pop fun _ popped => act_effect popped _

lemma select_effect : Effect state 3 1 state.select := by
  refine effect_pop fun condition _ => effect_pop fun b _ => effect_pop fun a popped => ?_
  -- However the value is chosen, one entry of the type of the first operand is pushed.
  cases condition.constant? with
  | none => exact effect_done (trades_pushed [⟨a.type, none⟩] (emit_stack _ _))
  | some value =>
    by_cases zero : value != 0
    · simp only [zero, if_true]
      exact entry_effect popped _
    · simp only [zero]
      refine effect_done (trades_pushed [⟨a.type, none⟩] ?_)
      split
      · rfl
      · exact act_stack _ _

end

lemma pop_many_effect (count : Nat) (state : BodyState) {next : List Operand × BodyState → Except StackFault BodyState}
    (rest : ∀ operands popped, Effect popped pops pushes (next (operands, popped))) :
    Effect state (pops + count) pushes (popMany count state >>= next) := by
  induction count generalizing state next with
  | zero => exact rest [] state
  | succ count ih =>
    have step : popMany (count + 1) state >>= next = state.pop >>= fun taken =>
        popMany count taken.2 >>= fun deeper => next (deeper.1 ++ [taken.1.operand], deeper.2) := by
      simp only [popMany, bind_assoc, pure_bind]
    rw [step]
    exact effect_pop fun taken popped => ih popped fun deeper lower => rest _ lower

lemma call_effect (state : BodyState) (callee : Callee) (signature : Signature) :
    Effect state signature.params.length signature.results.length (state.call callee signature) := by
  rw [← Nat.zero_add signature.params.length]
  refine pop_many_effect _ state fun operands popped => ?_
  have stack : ((popped.pushAll signature.results).act (.call popped.next signature.results.length callee operands)).stack =
        (signature.results.map fun type => ⟨type, none⟩).reverse ++ popped.stack :=
    (act_stack _ _).trans (popped.push_all signature.results).1
  have trades := trades_pushed _ stack
  rw [List.length_reverse, List.length_map] at trades
  exact effect_done trades

lemma assign_effect (state : BodyState) (index : Nat) (type : ValueType) (tee : Bool) : Effect state 1 (if tee then 1 else 0) (do
      let place := Operand.local index
      let (value, state) ← state.pop
      let state := state.materialize fun _ operand => operand == place
      let state :=
        if value.operand == place then state else state.act (.setLocal index value.operand)
      return if tee then state.pushEntry ⟨type, some place⟩ else state) := by
  refine effect_pop fun value popped => effect_done ?_
  have settles := materialize_settles (fun _ operand => operand == .local index) popped.stack
  have stack : (if value.operand == .local index then popped.materialize fun _ operand => operand == .local index
      else (popped.materialize fun _ operand => operand == .local index).act (.setLocal index value.operand)).stack =
      (popped.stack.materialize fun _ operand => operand == .local index).2 := by
    split
    · rfl
    · exact act_stack _ _
  cases tee with
  | true => exact trades_settled [⟨type, some (.local index)⟩] (congrArg (_ :: ·) stack) settles
  | false => exact trades_settled [] stack settles

lemma retype_effect (state : BodyState) (type : ValueType) : Effect state 1 1 (match state.stack with
      | [] => throw .underflow
      | entry :: rest =>
        if rest.length < state.height then throw .underflow
        else return { state with stack := { entry with type := type } :: rest }) := by
  have same : (match state.stack with
      | [] => throw .underflow
      | entry :: rest =>
        if rest.length < state.height then throw .underflow
        else return { state with stack := { entry with type := type } :: rest }) =
      state.pop >>= fun taken => Except.ok { taken.2 with
        stack := ⟨type, (state.stack.head?.bind (·.deferred))⟩ :: taken.2.stack } := by
    cases stack : state.stack with
    | nil =>
      simp only [pop, stack]
      rfl
    | cons entry rest =>
      by_cases low : rest.length < state.height
      · simp only [pop, stack, if_pos low]
        rfl
      · simp only [pop, stack, if_neg low]
        rfl
  rw [same]
  exact effect_pop fun _ popped => effect_done (trades_pushed [_] rfl)

end BodyState

open BodyState Option

variable {context : BodyContext} {state : BodyState} {instruction : Instruction} {op : Op} {pops pushes : Nat}

lemma compile_op_effect (known : instruction.op? = some op) (plain : op.isControl = false)
    (called : op ≠ .call) (bound : instruction.Bound context.scope)
    (effect : instruction.stackEffect context.scope = ⟨pops, pushes, true⟩) :
    Effect state pops pushes (compileOp context state instruction op) := by
  rw [Instruction.Bound, known] at bound
  rw [Instruction.stackEffect, known] at effect
  cases op <;> try cases plain
  case call => exact absurd rfl called
  case nop =>
    cases effect
    exact effect_done (trades_pushed [] rfl)
  case callIndirect =>
    simp only [compileOp, unaryOf?, binaryOf?]
    cases found : context.scope.type? instruction.index with
    | none => simp [found] at effect
    | some signature =>
      simp only [found] at effect
      cases effect
      exact effect_pop fun _ popped => call_effect popped _ signature
  case drop =>
    cases effect
    exact effect_pop fun _ popped => effect_done (trades_pushed [] rfl)
  case localGet | localSet | localTee | globalGet | globalSet =>
    cases effect
    obtain ⟨type, found⟩ := isSome_iff_exists.1 bound
    simp only [compileOp, unaryOf?, binaryOf?, found]
    first
    | exact entry_effect state _
    | exact assign_effect state _ type false
    | exact assign_effect state _ type true
    | exact nullary_effect state _ _
    | exact effect_pop fun _ popped => act_effect popped _
  case select | selectTyped =>
    cases effect
    exact select_effect state
  case load access =>
    cases effect
    exact unary_effect state access.result fun address => .load access address instruction.offset
  case store access =>
    cases effect
    exact effect2_effect state fun address value => .store access address instruction.offset value
  case tableGet | memoryGrow | intTest | intUnary | floatUnary | refIsNull =>
    cases effect
    exact unary_effect state _ _
  case tableSet =>
    cases effect
    exact effect2_effect state _
  case memorySize | tableSize =>
    cases effect
    exact nullary_effect state _ _
  case const type =>
    cases effect
    rcases type with (_ | _) | (_ | _) <;> exact entry_effect state _
  case refNull | refFunc =>
    cases effect
    exact entry_effect state _
  case intCompare | floatCompare | intBinary | floatBinary | tableGrow =>
    cases effect
    exact effect_pop fun _ _ => effect_pop fun _ popped => nullary_effect popped _ _
  case memoryCopy | memoryFill | tableFill =>
    cases effect
    exact effect3_effect state _
  case convert op =>
    cases effect
    cases unary : unaryOf? (.convert op) with
    | some found =>
      simp only [compileOp, unary]
      exact unary_effect state _ _
    | none =>
      simp only [compileOp, unary, binaryOf?]
      exact retype_effect state .f64

lemma compile_call_effect (module : Wasm.Module) (locals results : List ValueType)
    (targeted : List Nat) (state : BodyState) (index : UInt32) (signature : Signature)
    (found : (module.scopeWith locals).function? index = some signature) :
    ∃ callee, compileCall ⟨module, module.scopeWith locals, results, targeted⟩ state index =
      (state.call callee signature).mapError .stack := by
  unfold compileCall
  simp only [Wasm.Scope.function?, Wasm.Module.scopeWith, List.getElem?_map] at found ⊢
  cases named : module.functions[index.toNat]? with
  | none => simp [named] at found
  | some function =>
    simp only [named, map_some, bind_eq_bind, bind_some] at found
    simp only [found]
    exact ⟨_, rfl⟩

lemma effect_of_stack {result : Except StackFault BodyState} (effect : Effect state pops pushes result) :
    (result.mapError BodyFault.stack = .error (.stack .underflow) ↔
      state.stack.length - state.height < pops) ∧ (pops ≤ state.stack.length - state.height →
      ∃ after, result.mapError BodyFault.stack = .ok after ∧ Trades state pops pushes after) := by
  refine ⟨⟨fun failed => ?_, fun short => ?_⟩, fun high => ?_⟩
  · by_contra high
    obtain ⟨after, done, -⟩ := effect.enough (Nat.le_of_not_lt high)
    rw [done] at failed
    cases failed
  · rw [effect.lacking short]
    rfl
  · obtain ⟨after, done, trades⟩ := effect.enough high
    exact ⟨after, by rw [done]; rfl, trades⟩

lemma supported (op : Op) (known : instruction.op? = some op) (text : String) :
    compileInstruction context state instruction ≠ .error (.unsupported text) := by
  have stacked : ∀ result : Except StackFault BodyState, result.mapError BodyFault.stack ≠ .error (.unsupported text) := by
    intro result failed
    cases result <;> cases failed
  unfold compileInstruction
  rw [known]
  by_cases called : op = .call
  · subst called
    show compileCall context state instruction.index ≠ _
    unfold compileCall
    split
    · simp [throw, throwThe, MonadExceptOf.throw]
    · split
      · simp [throw, throwThe, MonadExceptOf.throw]
      · exact stacked _
  · split
    · simp_all
    · simp_all
    · exact stacked _

/-- An instruction whose effect is not known is not supported. Any other one underflows exactly when its operands are not
there, and otherwise leaves as many results as it states and keeps what is below. -/
theorem compile_instruction_effect (module : Wasm.Module) (locals results : List ValueType)
    (targeted : List Nat) (state : BodyState) (instruction : Instruction) (plain : instruction.isControl = false) :
    let scope := module.scopeWith locals
    let result := compileInstruction ⟨module, scope, results, targeted⟩ state instruction
    ((∃ text, result = .error (.unsupported text)) ↔ ∀ other, (instruction.stackEffect other).known = false) ∧
    ∀ pops pushes, instruction.stackEffect scope = ⟨pops, pushes, true⟩ → instruction.Bound scope →
      (result = .error (.stack .underflow) ↔ state.stack.length - state.height < pops) ∧
      (pops ≤ state.stack.length - state.height → ∃ after, result = .ok after ∧ after.stack.length = state.stack.length - pops + pushes ∧
          List.Forall₂ Entry.Settles (state.stack.drop pops) (after.stack.drop pushes)) := by
  intro scope result
  refine ⟨?_, fun pops pushes effect bound => ?_⟩
  · rw [Instruction.effect_unknown]
    constructor
    · rintro ⟨text, failed⟩
      cases known : instruction.op? with
      | none => rfl
      | some op => exact absurd failed (supported op known text)
    · intro unknown
      exact ⟨instruction.opText, by simp only [result, compileInstruction, unknown]; rfl⟩
  · cases known : instruction.op? with
    | none => simp [Instruction.stackEffect, known] at effect
    | some op =>
      have free : op.isControl = false := by
        rw [Instruction.isControl, known] at plain
        exact plain
      have compiled : ∃ stacked, result = stacked.mapError BodyFault.stack ∧
          Effect state pops pushes stacked := by
        by_cases called : op = .call
        · subst called
          rw [Instruction.stackEffect, known] at effect
          cases found : scope.function? instruction.index with
          | none => simp [found] at effect
          | some signature =>
            simp only [found] at effect
            cases effect
            obtain ⟨callee, same⟩ := compile_call_effect module locals results targeted state _ _ found
            refine ⟨state.call callee signature, ?_, call_effect state callee signature⟩
            simp only [result, compileInstruction, known]
            exact same
        · refine ⟨compileOp ⟨module, scope, results, targeted⟩ state instruction op, ?_, compile_op_effect known free called bound effect⟩
          simp only [result, compileInstruction, known]
      obtain ⟨stacked, same, effect⟩ := compiled
      obtain ⟨lacking, enough⟩ := effect_of_stack effect
      rw [same]
      exact ⟨lacking, fun high => by
        obtain ⟨after, done, trades⟩ := enough high
        exact ⟨after, done, trades.length, trades.lower⟩⟩

/-- The read of the local below moves to its slot. -/
theorem tee_settles :
    let module : Wasm.Module := .empty
    let tee := Instruction.indexed .localTee 0
    let state := { BodyState.initial [] with
      stack := [⟨.i32, some (.atom (.i32 7))⟩, ⟨.i32, some (.local 0)⟩] }
    tee.isControl = false ∧ tee.stackEffect (module.scopeWith [.i32]) = ⟨1, 1, true⟩ ∧
      tee.Bound (module.scopeWith [.i32]) ∧
      ∃ after, compileInstruction ⟨module, module.scopeWith [.i32], [], []⟩ state tee = .ok after ∧
        after.stack.length = 2 - 1 + 1 ∧
        List.Forall₂ Entry.Settles [⟨.i32, some (.local 0)⟩] (after.stack.drop 1) ∧
        after.stack.drop 1 ≠ [⟨.i32, some (.local 0)⟩] := by
  intro module tee state
  have plain : tee.isControl = false := by decide
  have effect : tee.stackEffect (module.scopeWith [.i32]) = ⟨1, 1, true⟩ := by decide
  have bound : tee.Bound (module.scopeWith [.i32]) := rfl
  obtain ⟨after, done, length, lower⟩ := ((compile_instruction_effect module [.i32] [] [] state tee plain).2 1 1 effect bound).2 (by decide)
  refine ⟨plain, effect, bound, after, done, length, lower, ?_⟩
  cases done
  decide

end WasmLua.Compile
