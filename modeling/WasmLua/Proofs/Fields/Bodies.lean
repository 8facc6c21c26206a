import WasmLua.Proofs.Body.Likeness
import WasmLua.Proofs.Spilling.Spelling

namespace WasmLua.Compile

open List
open Target (Allowed Block Field Stmt)
open Wasm (Instruction ValueType)
open BodyState (finished_like)

section Success

variable {ε φ α β : Type}

def Yields (after : α → Prop) (action : Except ε α) : Prop := ∀ value, action = .ok value → after value

variable {after : α → Prop}

lemma yields_pure (holds : after value) : Yields after (pure value : Except ε α) := by
  rintro _ ⟨⟩
  exact holds

lemma yields_throw : Yields after (throw error : Except ε α) := by
  rintro _ ⟨⟩

variable {action : Except ε α}

lemma yields_any : Yields (fun _ => True) action := fun _ _ => trivial

lemma yields_bind {middle : α → Prop} {after : β → Prop}
    {next : α → Except ε β} (first : Yields middle action)
    (rest : ∀ value, middle value → Yields after (next value)) : Yields after (action >>= next) := by
  cases action with
  | error error => rintro _ ⟨⟩
  | ok value => exact rest value (first value rfl)

lemma yields_error (holds : Yields after action) : Yields after (action.mapError change) := by
  cases action with
  | error error => rintro _ ⟨⟩
  | ok value => exact yields_pure (holds value rfl)

end Success

variable {allowed : Field → Prop}

lemma block_allowed (code : List Stmt) :
    Allowed allowed (Block.ofList code).fields ↔ ∀ stmt ∈ code, Allowed allowed stmt.fields := by
  induction code with
  | nil => simp [Block.ofList, Block.fields]
  | cons first rest ih => simp [Block.ofList, Block.fields, ih]

/-- Code is like itself if it reads allowed fields only. -/
def reading (allowed : Field → Prop) : Likeness allowed where
  code first second := first = second ∧ ∀ stmt ∈ first, Allowed allowed stmt.fields
  block first second := first = second ∧ Allowed allowed first.fields
  arms first second := first = second ∧ Allowed allowed first.fields
  nil := ⟨rfl, forall_mem_nil _⟩
  append := by
    rintro first _ second _ ⟨rfl, before⟩ ⟨rfl, after⟩
    exact ⟨rfl, forall_mem_append.mpr ⟨before, after⟩⟩
  keep _ _ read := ⟨rfl, forall_mem_singleton.mpr read⟩
  choose := by
    rintro arms _ ⟨rfl, read⟩
    exact ⟨rfl, forall_mem_singleton.mpr read⟩
  once := by
    rintro body _ ⟨rfl, read⟩
    exact ⟨rfl, forall_mem_singleton.mpr read⟩
  forever := by
    rintro body _ ⟨rfl, read⟩
    exact ⟨rfl, forall_mem_singleton.mpr read⟩
  ofList := by
    rintro code _ ⟨rfl, read⟩
    exact ⟨rfl, (block_allowed code).mpr read⟩
  none := ⟨rfl, Target.allowed_nil allowed⟩
  otherwise := by
    rintro body _ ⟨rfl, read⟩
    exact ⟨rfl, read⟩
  arm := by
    rintro condition body _ rest _ test ⟨rfl, read⟩ ⟨rfl, others⟩
    exact ⟨rfl, (Target.allowed_append _).mpr ⟨(Target.allowed_append _).mpr ⟨test, read⟩, others⟩⟩

lemma run_within (offset : Nat)
    (within : state.Like (reading allowed) state)
    (named : ∀ instruction ∈ body, Allowed allowed (instruction.fields context.module)) :
    Yields (fun state => ∀ stmt ∈ state.finished, Allowed allowed stmt.fields) (runBody context offset state body) := by
  induction body generalizing offset state with
  | nil =>
    unfold runBody
    split
    · exact yields_pure (finished_like within).2
    · exact yields_throw
  | cons instruction rest ih =>
    obtain ⟨here, later⟩ := forall_mem_cons.mp named
    have step := step_like within here
    unfold runBody
    cases done : stepBody context state instruction with
    | error fault => exact yields_throw
    | ok next =>
      rw [done] at step
      cases step with
      | ok within => exact ih (offset + 1) within later

lemma initial_within (results : List ValueType) : (BodyState.initial results).Like (reading allowed) (.initial results) :=
  .intro _ _ (forall_mem_nil _) (.cons (.intro [] none (reading allowed).nil .none nofun) .nil) (reading allowed).nil

lemma body_within {module : Wasm.Module} {scope : Wasm.Scope} {results : List ValueType}
    {body : List Instruction} (named : ∀ instruction ∈ body, Allowed allowed (instruction.fields module)) :
    Yields (fun compiled => Allowed allowed compiled.code.fields) (compileBody module scope results body) := by
  refine yields_bind yields_any fun labels _ => ?_
  refine yields_bind (run_within 0 (initial_within results) named) fun state within => ?_
  exact yields_pure ((block_allowed _).mpr within)

namespace Plan

variable {plan : Plan}

lemma function_within (index : Nat) {function : Wasm.Function}
    (named : ∀ instruction ∈ function.body, Allowed allowed (instruction.fields plan.module)) :
    Yields (fun compiled => Allowed allowed compiled.function.body.fields) (plan.compileFunction index function) := by
  rw [compile_function]
  simp only [body_as]
  cases plan.module.type? function.type with
  | none => exact yields_throw
  | some signature =>
    refine yields_bind (yields_error (body_within named)) fun body within => ?_
    exact yields_pure within

lemma functions_within (first : Nat)
    (named : ∀ function ∈ functions, ∀ instruction ∈ function.body,
      Allowed allowed (instruction.fields plan.module)) (compiled : List CompiledFunction)
    (done : plan.compileFrom first functions = (compiled, none)) :
    ∀ item ∈ compiled, Allowed allowed item.function.body.fields := by
  induction functions generalizing first compiled with
  | nil =>
    cases done
    exact forall_mem_nil _
  | cons function rest ih =>
    obtain ⟨here, later⟩ := forall_mem_cons.mp named
    rw [compileFrom] at done
    split at done
    · exact ih (first + 1) later compiled done
    · cases made : plan.compileFunction first function with
      | error error =>
        rw [made] at done
        cases done
      | ok head =>
        rcases all : plan.compileFrom (first + 1) rest with ⟨more, failure⟩
        simp only [made, all] at done
        cases done
        exact forall_mem_cons.mpr ⟨function_within first here head made, ih (first + 1) later more all⟩

end Plan

end WasmLua.Compile
