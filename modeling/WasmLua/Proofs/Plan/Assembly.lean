import WasmLua.Compile.Unit
import WasmLua.Proofs.Body.Operations

namespace WasmLua.Compile

open Target (Program)

lemma related_at {α β : Type} {relates : α → β → Prop} {sources : List α} {items : List β}
    (related : List.Forall₂ relates sources items) {index : Nat} {item : β}
    (found : items[index]? = some item) : ∃ source, sources[index]? = some source ∧ relates source item := by
  induction related generalizing index with
  | nil => cases found
  | cons here _ ih =>
    cases index with
    | zero =>
      cases found
      exact ⟨_, rfl, here⟩
    | succ index => exact ih found

namespace Plan

variable {plan : Plan}

structure Assembled (plan : Plan) (functions : List CompiledFunction) (program : Program) : Prop where
  names : program.toNames = plan.names
  name : program.name = plan.module.name
  functionImports : program.functionImports
    = (plan.module.functions.mapIdx fun i f => (i, f.origin)).filterMap
      fun (i, origin) => origin.map (i, ·)
  memories : program.memories
    = plan.module.memories.map fun m => provision m.origin m.limits plan.settings.maxPages
  tables : program.tables
    = plan.module.tables.map fun t => provision t.origin t.limits plan.settings.maxElements
  refs : plan.refs.mapM plan.ref = .ok program.refs
  globals : plan.globals 0 plan.module.globals = .ok program.globals
  elements : plan.elements 0 plan.module.elements = .ok program.elements
  data : plan.data 0 plan.module.data = .ok program.data
  functions : program.functions = functions.map (·.function)
  exports : program.exports = plan.module.exports.map fun item => (item.name, plan.exportValue item)
  importList : plan.importList = .ok program.importList
  exportList : plan.exportList = .ok program.exportList
  start : plan.start = .ok program.start

lemma program_assembled {functions : List CompiledFunction} {program : Program}
    (put : plan.program functions = .ok program) : plan.Assembled functions program := by
  obtain ⟨refs, refsMade, put⟩ := bind_ok put
  obtain ⟨globals, globalsMade, put⟩ := bind_ok put
  obtain ⟨elements, elementsMade, put⟩ := bind_ok put
  obtain ⟨data, dataMade, put⟩ := bind_ok put
  obtain ⟨imports, importsMade, put⟩ := bind_ok put
  obtain ⟨exports, exportsMade, put⟩ := bind_ok put
  obtain ⟨start, startMade, same⟩ := bind_ok put
  cases same
  exact ⟨rfl, rfl, rfl, rfl, rfl, refsMade, globalsMade, elementsMade, dataMade, rfl, rfl, importsMade, exportsMade, startMade⟩

def Initializes (plan : Plan) (global : Wasm.Global) : Target.GlobalInit → Prop
  | .imported origin => global.origin = some origin
  | .created init => global.origin = none ∧ ∃ owner, plan.constant owner global.init global.type.type = .ok init

lemma globals_made {globals : List Wasm.Global} (first : Nat) (inits : List Target.GlobalInit)
    (made : plan.globals first globals = .ok inits) : List.Forall₂ plan.Initializes globals inits := by
  induction globals generalizing first inits with
  | nil =>
    cases made
    exact .nil
  | cons global rest ih =>
    rw [Plan.globals] at made
    cases known : global.origin with
    | some origin =>
      simp only [known, pure_bind] at made
      obtain ⟨more, others, same⟩ := bind_ok made
      cases same
      exact .cons known (ih (first + 1) more others)
    | none =>
      simp only [known] at made
      obtain ⟨init, here, made⟩ := bind_ok made
      obtain ⟨more, others, same⟩ := bind_ok made
      cases same
      refine .cons ?_ (ih (first + 1) more others)
      cases constant : plan.constant (.global first) global.init global.type.type with
      | error error =>
        rw [constant] at here
        cases here
      | ok value =>
        rw [constant] at here
        cases here
        exact ⟨known, _, constant⟩

lemma elements_made (first : Nat)
    (elements : List Target.ElementInit) (made : plan.elements first segments = .ok elements) :
    List.Forall₂ (fun segment element => element.table = segment.table ∧ segment.table.toNat < plan.module.tables.length ∧
        (∃ owner, plan.constant owner segment.offset .i32 = .ok element.offset) ∧
        element.functions = segment.init.map fun function =>
          if function.toInt < 0 then none else some function.toInt.toNat)
      (segments.filter (!·.passive)) elements := by
  induction segments generalizing first elements with
  | nil =>
    cases made
    exact .nil
  | cons segment rest ih =>
    rw [Plan.elements] at made
    split at made
    · rename_i passive
      rw [List.filter_cons_of_neg (by simp [passive])]
      exact ih (first + 1) elements made
    · rename_i active
      split at made
      · cases made
      · rename_i inside
        obtain ⟨offset, here, made⟩ := bind_ok made
        obtain ⟨more, others, same⟩ := bind_ok made
        cases same
        rw [List.filter_cons_of_pos (by simp [active])]
        exact .cons ⟨rfl, Nat.lt_of_not_le inside, ⟨_, here⟩, rfl⟩ (ih (first + 1) more others)

lemma data_made (first : Nat) (data : List Target.DataInit)
    (made : plan.data first segments = .ok data) : List.Forall₂ (fun segment item => item.memory = segment.memory ∧
        segment.memory.toNat < plan.module.memories.length ∧
        (∃ owner, plan.constant owner segment.offset .i32 = .ok item.offset) ∧ item.bytes = segment.init)
      (segments.filter (!·.passive)) data := by
  induction segments generalizing first data with
  | nil =>
    cases made
    exact .nil
  | cons segment rest ih =>
    rw [Plan.data] at made
    split at made
    · rename_i passive
      rw [List.filter_cons_of_neg (by simp [passive])]
      exact ih (first + 1) data made
    · rename_i active
      split at made
      · cases made
      · rename_i inside
        obtain ⟨offset, here, made⟩ := bind_ok made
        obtain ⟨more, others, same⟩ := bind_ok made
        cases same
        rw [List.filter_cons_of_pos (by simp [active])]
        exact .cons ⟨rfl, Nat.lt_of_not_le inside, ⟨_, here⟩, rfl⟩ (ih (first + 1) more others)

end Plan

/-- What was planned for a module, the functions that were compiled for it and the unit. -/
structure Builds (module : Wasm.Module) (options : Option Options) (plan : Plan)
    (functions : List CompiledFunction) (program : Program) : Prop where
  settings : settingsOf options = .ok plan.settings
  planned : plan.module = module
  cells : Plan.checkExports module module.exports (module.globals.map (·.origin.isSome))
    = .ok plan.names.cells
  names : plan.names = ⟨plan.settings.namePrefix, functionNames module.functions plan.settings.debugNames, plan.names.cells⟩
  refs : ∃ refs, Plan.elementRefs module.functions.length 0 module.elements = .ok refs ∧
    plan.refs = Plan.listed module.functions.length (refs ++ module.globals.flatMap (Plan.bodyRefs ·.init)
      ++ module.functions.flatMap (Plan.bodyRefs ·.body))
  compiled : plan.compileFrom 0 module.functions = (functions, none)
  assembled : plan.Assembled functions program

lemma compile_steps
    (accepted : compile module options = .ok program) : ∃ plan functions, Builds module options plan functions program := by
  unfold compile attempt at accepted
  cases planned : settingsOf options >>= Plan.make module with
  | error error =>
    rw [planned] at accepted
    cases accepted
  | ok plan =>
    obtain ⟨settings, resolved, made⟩ := bind_ok planned
    obtain ⟨cells, checked, made⟩ := bind_ok made
    obtain ⟨refs, collected, same⟩ := bind_ok made
    cases same
    simp only [planned] at accepted
    generalize all : Plan.compileFrom _ 0 module.functions = outcome at accepted
    obtain ⟨functions, _ | error⟩ := outcome
    · exact ⟨_, functions, resolved, rfl, checked, rfl, ⟨refs, collected, rfl⟩, all, Plan.program_assembled accepted⟩
    · cases accepted

end WasmLua.Compile
