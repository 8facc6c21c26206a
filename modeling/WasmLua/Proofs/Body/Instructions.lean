import WasmLua.Proofs.Body.Branches

namespace WasmLua.Compile

open Target (Callee)
open Wasm (Config Effect Instruction Op Result Semantics Surroundings)

variable {ε S V : Type}

def BodyContext.unit (context : BodyContext) : Surroundings := ⟨context.module, context.scope, context.results⟩

variable {instruction : Instruction}

section Simulation

variable {context : BodyContext} {meaning : Semantics ε S V} (view : View meaning)
  {before after : BodyState} (wellformed : Wellformed context before) (live : before.Live)

include wellformed live

lemma conversion_simulates {op : Wasm.Conversion} (done : compileOp context before instruction (.convert op) = .ok after) :
    ∃ code, Simulates context view before after 0 (fun config => config.perform meaning (.numeric (.convert op)) 1 1) code := by
  -- Two conversions change nothing and emit nothing.
  have kept : (∀ value, meaning.perform (.numeric (.convert op)) 1 [value] = pure #v[value]) → unaryOf? (.convert op) = none →
      ∃ code, Simulates context view before after 0 (fun config => config.perform meaning (.numeric (.convert op)) 1 1) code := by
    intro keeps silent
    simp only [compileOp, silent, binaryOf?] at done
    split at done
    · cases done
    · rename_i entry rest stack
      split at done
      · cases done
      · cases done
        refine retyped_simulates view wellformed live .f64 stack ?_
        intro config positive
        obtain ⟨values, locals, store⟩ := config
        cases values with
        | nil => cases positive
        | cons value values =>
          simp [Config.perform, Config.top, keeps, pure, EStateM.pure]
  have plain : ∀ operation type, unaryOf? (.convert op) = some (operation, type) → operation.op = .convert op →
      ∃ code, Simulates context view before after 0 (fun config => config.perform meaning (.numeric (.convert op)) 1 1) code := by
    intro operation type found same
    simp only [compileOp, found] at done
    exact unary_simulates view wellformed live (.unary operation) (fun a => ⟨congrArg _ same, rfl⟩) done
  cases op with
  | promote => exact kept meaning.promote_keeps rfl
  | convert target source sign =>
    cases target with
    | f32 => exact plain _ _ rfl rfl
    | f64 =>
      cases source with
      | i64 => exact plain _ _ rfl rfl
      | i32 =>
        cases sign with
        | signed => exact kept meaning.convert_keeps rfl
        | unsigned => exact plain _ _ rfl rfl
  | _ => exact plain _ _ rfl rfl

lemma operation_simulates {op : Op} (found : instruction.op? = some op)
    (single : op ∉ [Op.block, .loop, .ifElse, .elseArm, .endBlock, .call]) (marked : ∀ label ∈ branchLabels instruction,
      Marked context.targeted (before.frames.map (·.label)) label) (bounded : op = .brTable → instruction.labels.length ≤ 2 ^ 31)
    (done : compileOp context before instruction op = .ok after) : ∃ effect, instruction.effect? context.unit = some effect ∧
      ∃ code, Simulates context view before after 0 (effect.run meaning context.unit) code := by
  have low := wellformed_low wellformed
  rw [Instruction.effect?, found]
  simp only [branchLabels, found] at marked
  cases op with
  | block | loop | ifElse | elseArm | endBlock | call => simp at single
  | unreachable =>
    cases done
    exact ⟨_, rfl, unreachable_simulates view wellformed live⟩
  | nop =>
    cases done
    exact ⟨_, rfl, silent_simulates view wellformed live _ rfl rfl rfl low wellformed.settled wellformed.fixed fun machine => rfl⟩
  | br =>
    exact ⟨_, rfl, jump_simulates view wellformed live (marked _ (by simp)) done⟩
  | brIf =>
    exact ⟨_, rfl, branch_if_simulates view wellformed live (marked _ (by simp)) done⟩
  | brTable =>
    exact ⟨_, rfl, branch_table_simulates view wellformed live (bounded rfl) marked done⟩
  | ret =>
    obtain ⟨values, taken, done⟩ := bind_ok done
    cases done
    exact ⟨_, rfl, ret_simulates view wellformed live taken⟩
  | callIndirect =>
    simp only [compileOp, unaryOf?, binaryOf?] at done
    split at done
    · cases done
    · rename_i signature known
      obtain ⟨⟨index, middle⟩, popped, done⟩ := bind_ok done
      have takes := BodyState.pop_takes popped
      obtain ⟨code, called⟩ := call_simulates view wellformed live takes done
      rw [show (Callee.element instruction.table index.operand signature.key).operands.length
        + signature.params.length = signature.params.length + 1 from Nat.add_comm _ _] at called
      have type : context.unit.scope.type? instruction.index = some signature := known
      refine ⟨.perform (.callElement instruction.table signature.key) (signature.params.length + 1)
        signature.results.length, ?_, code, called⟩
      simp only [Option.bind_some, type]
      rfl
  | drop =>
    obtain ⟨⟨taken, middle⟩, popped, done⟩ := bind_ok done
    cases done
    exact ⟨_, rfl, drop_simulates view wellformed live popped⟩
  | select | selectTyped =>
    exact ⟨_, rfl, select_simulates view wellformed live done⟩
  | localGet | globalGet =>
    simp only [compileOp, unaryOf?, binaryOf?] at done
    split at done
    · cases done
    · cases done
      first
      | exact ⟨_, rfl, deferred_simulates view wellformed live _ _ _ nofun fun machine => rfl⟩
      | exact ⟨_, rfl, nullary_simulates view wellformed live rfl⟩
  | localSet | localTee =>
    simp only [compileOp, unaryOf?, binaryOf?] at done
    split at done
    · cases done
    · rename_i type _
      obtain ⟨⟨taken, middle⟩, popped, done⟩ := bind_ok done
      cases done
      first
      | exact ⟨_, rfl, local_set_simulates view wellformed live _ popped⟩
      | exact ⟨_, rfl, local_tee_simulates view wellformed live type popped⟩
  | globalSet =>
    simp only [compileOp, unaryOf?, binaryOf?] at done
    split at done
    · cases done
    · obtain ⟨⟨taken, middle⟩, popped, done⟩ := bind_ok done
      cases done
      refine ⟨_, rfl, taken_simulates view wellformed live (.setGlobal _ _) [] (BodyState.pop_takes popped) nofun
        (.globalSet instruction.index.toNat) (.inl rfl) fun machine => rfl⟩
  | tableGet | memoryGrow | intTest type | intUnary type op | floatUnary type op | refIsNull =>
    exact ⟨_, rfl, unary_simulates view wellformed live _ (fun a => ⟨rfl, rfl⟩) done⟩
  | tableSet =>
    exact ⟨_, rfl, effect2_simulates view wellformed live (by intro a b; nofun) (fun _ _ _ => rfl) done⟩
  | load access | store access =>
    simp only [compileOp, unaryOf?, binaryOf?] at done
    first
    | exact ⟨_, rfl, unary_simulates view wellformed live _ (fun a => ⟨rfl, rfl⟩) done⟩
    | exact ⟨_, rfl, effect2_simulates view wellformed live (by intro a b; nofun) (fun _ _ _ => rfl) done⟩
  | memorySize | tableSize =>
    cases done
    exact ⟨_, rfl, nullary_simulates view wellformed live rfl⟩
  | const type =>
    cases type with
    | int type | float type =>
      cases type <;>
        cases done <;>
        exact ⟨_, rfl, deferred_simulates view wellformed live _ _ _ nofun fun machine => rfl⟩
  | intCompare type op | floatCompare type op | intBinary type op | floatBinary type op | tableGrow =>
    exact ⟨_, rfl, binary_simulates view wellformed live (fun a b => ⟨rfl, rfl⟩) done⟩
  | convert op =>
    exact ⟨_, rfl, conversion_simulates view wellformed live done⟩
  | refNull | refFunc =>
    cases done
    exact ⟨_, rfl, deferred_simulates view wellformed live _ _ _ nofun fun machine => rfl⟩
  | memoryCopy | memoryFill | tableFill =>
    exact ⟨_, rfl, effect3_simulates view wellformed live (by intro a b c; nofun) (fun _ _ _ _ => rfl) done⟩

lemma function_call_simulates (found : instruction.op? = some .call)
    (done : compileCall context before instruction.index = .ok after) : ∃ effect, instruction.effect? context.unit = some effect ∧
      ∃ code, Simulates context view before after 0 (effect.run meaning context.unit) code := by
  unfold compileCall at done
  split at done
  · cases done
  · rename_i function listed
    split at done
    · cases done
    · rename_i signature known
      have called := map_error_ok done
      refine ⟨.perform (.call instruction.index.toNat) signature.params.length signature.results.length, ?_, ?_⟩
      · have callee : context.unit.module.functions[instruction.index.toNat]? = some function := listed
        have type : context.unit.scope.type? function.type = some signature := known
        rw [Instruction.effect?, found]
        simp only [Option.bind_eq_bind, Option.bind_some, callee, type]
        rfl
      · have none := BodyState.takes_none (wellformed_low wellformed)
        cases origin : function.origin.isSome with
        | true | false =>
          rw [origin] at called
          obtain ⟨code, simulates⟩ := call_simulates view wellformed live none called
          exact ⟨code, Nat.zero_add signature.params.length ▸ simulates⟩

lemma instruction_simulates (single : ∀ op ∈ instruction.op?, op ∉ [Op.block, .loop, .ifElse, .elseArm, .endBlock])
    (marked : ∀ label ∈ branchLabels instruction, Marked context.targeted (before.frames.map (·.label)) label)
    (bounded : instruction.op? = some .brTable → instruction.labels.length ≤ 2 ^ 31)
    (done : compileInstruction context before instruction = .ok after) :
    ∃ effect, instruction.effect? context.unit = some effect ∧
      ∃ code, Simulates context view before after 0 (effect.run meaning context.unit) code := by
  unfold compileInstruction at done
  split at done
  · cases done
  · rename_i found
    exact function_call_simulates view wellformed live found done
  · rename_i op other found
    refine operation_simulates view wellformed live found ?_ marked (fun same => bounded (same ▸ found)) (map_error_ok done)
    have inner := single op found
    simp only [List.mem_cons, List.not_mem_nil, or_false, not_or] at inner ⊢
    obtain ⟨block, loop, conditional, middle, close⟩ := inner
    exact ⟨block, loop, conditional, middle, close, other⟩

end Simulation

end WasmLua.Compile
