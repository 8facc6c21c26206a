import WasmLua.Proofs.Safety.Units

namespace WasmLua.Compile

lemma steps_stacked {module : Wasm.Module} (typed : module.Typed) (locals results : List Wasm.ValueType)
    (targeted : List Nat) (body : List Wasm.Instruction) (state : BodyState)
    (done : body.foldlM (stepBody ⟨module, module.scopeWith locals, results, targeted⟩)
      (.initial results) = .ok state) : Stacked state := by
  -- The names only guard accesses, so any that are long enough will do.
  let names : Target.Names := ⟨"", module.functions.map fun _ => "", module.globals.map fun _ => false⟩
  have fitting : Guarded.Fitting names ⟨module, module.scopeWith locals, results, targeted⟩ :=
    ⟨typed, List.length_map _, (List.length_map _).trans (List.length_map _).symm⟩
  exact balanced_stacked (Guarded.steps_balanced fitting (Guarded.initial_balanced results) done)

/-- With every access guarded, the compiler does the same on each module whose functions have types, as all have that are
read from a binary. -/
theorem compilation_never_crashes : (∀ (module : Wasm.Module) (options : Option Options), module.Typed →
      Guarded.compile module options = (compile module options).mapError .fault ∧
      Guarded.analyze module options = (analyze module options).mapError .fault ∧
      compile module options ≠ .error .missingSignature ∧ analyze module options ≠ .error .missingSignature ∧
      ∀ (locals results : List Wasm.ValueType) (targeted : List Nat) (body : List Wasm.Instruction) (state : BodyState),
        body.foldlM (stepBody ⟨module, module.scopeWith locals, results, targeted⟩) (.initial results) = .ok state → Stacked state) ∧
    ∀ (input : Bytes) (module : Wasm.Module), Binary.decode input = .ok module → module.Typed := by
  refine ⟨?_, fun input module decoded => (Binary.decoded_kept decoded).1⟩
  intro module options typed
  have compiled := Guarded.compile_mirrors options typed
  have analyzed := Guarded.analyze_mirrors options typed
  refine ⟨compiled.same, analyzed.same, ?_, ?_, steps_stacked typed⟩
  · exact fun missing => compiled.fault _ missing rfl
  · exact fun missing => analyzed.fault _ missing rfl

example : Guarded.compile { Wasm.Module.empty with functions := [⟨[], 0, none, [], []⟩] } none = .error .crash := by
  rfl

def rungs : List Wasm.Instruction := [.i32Const 7, .block .block (.value .i32), .i32Const 3, .block .block .empty, .i32Const 1]

def ladder : Wasm.Module :=
  { Wasm.Module.empty with
    types := [⟨[], [.i32]⟩]
    functions := [⟨[], 0, none, [], rungs ++ [.brTable [0, -1] 1, .endBlock, .endBlock, .endBlock]⟩] }

def sevenBinary : Bytes := [0x00, 0x61, 0x73, 0x6d, 0x01, 0x00, 0x00, 0x00, 0x01, 0x05, 0x01, 0x60, 0x00, 0x01, 0x7f,
    0x03, 0x02, 0x01, 0x00, 0x0a, 0x06, 0x01, 0x04, 0x00, 0x41, 0x07, 0x0b]

theorem ladder_never_crashes : ladder.Typed ∧ Guarded.compile ladder none = .error (.fault (.stack 0 5 (.branchDepth (-1)))) ∧
    Guarded.analyze ladder none = .error (.fault (.stack 0 5 (.branchDepth (-1)))) ∧
    (∃ state, rungs.foldlM (stepBody ⟨ladder, ladder.scopeWith [], [.i32], []⟩) (.initial [.i32])
        = .ok state ∧ state.frames.map (·.height) = [2, 1, 0] ∧ Stacked state) ∧
    ∃ module, Binary.decode sevenBinary = .ok module ∧ module.functions.length = 1 ∧ module.Typed := by
  have typed : ladder.Typed := by
    intro function member
    cases List.mem_singleton.mp member
    decide
  obtain ⟨safe, read⟩ := compilation_never_crashes
  obtain ⟨compiled, analyzed, -, -, steps⟩ := safe ladder none typed
  refine ⟨typed, compiled.trans rfl, analyzed.trans rfl, ?_, ?_⟩
  · exact ⟨_, rfl, rfl, steps [] [.i32] [] rungs _ rfl⟩
  · exact ⟨_, rfl, rfl, read sevenBinary _ rfl⟩

end WasmLua.Compile
