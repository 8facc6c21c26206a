import WasmLua.Binary.Decode
import WasmLua.Proofs.Body.Operations

namespace WasmLua.Wasm.Module

def Typed (module : Module) : Prop := ∀ function ∈ module.functions, function.type.toNat < module.types.length

def GlobalsOrdered (module : Module) : Prop :=
  ∃ front back, module.globals = front ++ back ∧ (∀ global ∈ front, global.origin.isSome) ∧ ∀ global ∈ back, global.origin = none

end WasmLua.Wasm.Module

namespace WasmLua.Binary

open List
open Wasm (Module)

variable {after module : Module}

lemma imports_kept {entries : List ImportEntry} (module : Module) (typed : module.Typed)
    (imported : ∀ global ∈ module.globals, global.origin.isSome) (done : addImports module entries = .ok after) :
    after.Typed ∧ ∀ global ∈ after.globals, global.origin.isSome := by
  induction entries generalizing module with
  | nil =>
    cases done
    exact ⟨typed, imported⟩
  | cons entry rest ih =>
    unfold addImports at done
    cases kind : entry.type with
    | func type =>
      simp only [kind] at done
      split at done
      · rename_i inside
        refine ih _ ?_ (by exact imported) done
        exact forall_mem_append.mpr ⟨typed, forall_mem_singleton.mpr inside⟩
      · cases done
    | table limits | memory limits =>
      simp only [kind] at done
      exact ih _ (by exact typed) (by exact imported) done
    | global type =>
      simp only [kind] at done
      exact ih _ (by exact typed) (forall_mem_append.mpr ⟨imported, forall_mem_singleton.mpr rfl⟩) done

lemma defined_typed {types : Nat} (index : Nat) {entries : List (UInt32 × RawBody)}
    (functions : List Wasm.Function) (done : definedFunctions types index entries = .ok functions) :
    ∀ function ∈ functions, function.type.toNat < types := by
  induction entries generalizing index functions with
  | nil =>
    cases done
    exact nofun
  | cons entry rest ih =>
    unfold definedFunctions at done
    split at done
    · cases done
    · rename_i inside
      split at done
      · cases done
      · obtain ⟨more, found, done⟩ := Compile.bind_ok done
        cases done
        exact forall_mem_cons.mpr ⟨Nat.lt_of_not_le inside, ih (index + 1) more found⟩

variable {sections : Sections}

lemma functions_kept (typed : module.Typed) (done : addFunctions sections module = .ok after) :
    after.Typed ∧ after.globals = module.globals := by
  unfold addFunctions at done
  split at done
  · cases done
    exact ⟨typed, rfl⟩
  · dsimp only at done
    split at done
    · cases done
    · obtain ⟨defined, found, done⟩ := Compile.bind_ok done
      cases done
      exact ⟨forall_mem_append.mpr ⟨typed, defined_typed _ _ found⟩, rfl⟩

lemma naming_kept (naming : Naming) (typed : module.Typed) :
    (naming.apply module).Typed ∧ (naming.apply module).globals = module.globals := by
  cases naming with
  | module name => exact ⟨typed, rfl⟩
  | function index name =>
    refine ⟨fun function member => ?_, rfl⟩
    -- A named function has the type of the one that it replaces.
    obtain ⟨place, held⟩ := mem_iff_getElem?.mp member
    obtain ⟨before, found, rfl⟩ : ∃ before, module.functions[place]? = some before ∧
        (if index.toNat = place then { before with name := name } else before) = function := by
      rw [Naming.apply, setName, getElem?_modify] at held
      exact Option.map_eq_some_iff.mp held
    have inside := typed before (mem_of_getElem? found)
    split <;> exact inside

lemma applied_kept (module : Module) {content : Bytes} (typed : module.Typed)
    (done : applyNames module content = some after) : after.Typed ∧ after.globals = module.globals := by
  obtain ⟨names, -, rfl⟩ := Option.map_eq_some_iff.mp done
  clear done
  induction names generalizing module with
  | nil => exact ⟨typed, rfl⟩
  | cons naming rest ih =>
    obtain ⟨named, same⟩ := naming_kept naming typed
    exact (ih (naming.apply module) named).imp_right (·.trans same)

lemma names_kept {customs : List (Bytes × Bytes)} (module : Module) (typed : module.Typed)
    (done : addNames module customs = .ok after) : after.Typed ∧ after.globals = module.globals := by
  induction customs generalizing module with
  | nil =>
    cases done
    exact ⟨typed, rfl⟩
  | cons custom rest ih =>
    unfold addNames at done
    split at done
    · split at done
      · rename_i named applied
        obtain ⟨kept, same⟩ := applied_kept module typed applied
        exact (ih named kept done).imp_right (·.trans same)
      · cases done
    · exact ih module typed done

lemma assembled_kept (done : assemble sections = .ok module) : module.Typed ∧ module.GlobalsOrdered := by
  obtain ⟨imported, imports, done⟩ := Compile.bind_ok done
  obtain ⟨filled, functions, done⟩ := Compile.bind_ok done
  have empty : Module.Typed { Module.empty with types := sections.types.getD [] } := fun _ member => absurd member not_mem_nil
  obtain ⟨typed, marked⟩ := imports_kept _ empty (by simp [Module.empty]) imports
  obtain ⟨typed, same⟩ := functions_kept typed functions
  obtain ⟨typed, globals⟩ := names_kept _ (by exact typed) done
  refine ⟨typed, filled.globals, _, globals, same ▸ marked, ?_⟩
  intro global member
  obtain ⟨defined, -, rfl⟩ := mem_map.mp member
  rfl

lemma decoded_kept {input : Bytes} (done : decode input = .ok module) : module.Typed ∧ module.GlobalsOrdered := by
  unfold decode at done
  split at done
  · cases done
  · split at done
    · split at done <;> cases done
    · split at done
      · exact assembled_kept done
      · cases done
      · cases done

end WasmLua.Binary
