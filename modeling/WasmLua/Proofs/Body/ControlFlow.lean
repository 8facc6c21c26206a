import WasmLua.Proofs.Body.Compilation

namespace WasmLua.Compile

open Target
open Target (Block Exit Flag Interpretation Machine Operand Stmt machineMeaning)
open Wasm (Code Config Ending Instruction Result Semantics Spells ValueType)

variable {ε S V : Type}

variable {context : BodyContext} {last : BodyState} {body : List Instruction} {code : Code}
  {words : List (Option Instruction)} {closing : Instruction}

lemma run_body_steps (offset : Nat) (state : BodyState) (done : runBody context offset state body = .ok last) :
    steps context state (body.map some) = .ok last := by
  induction body generalizing offset state with
  | nil =>
    unfold runBody at done
    split at done
    · cases done
      rfl
    · cases done
  | cons word words ih =>
    unfold runBody at done
    split at done
    · rename_i middle step
      rw [List.map_cons, steps_behind _ step]
      exact ih (offset + 1) middle done
    · cases done

lemma compile_body_ok {module : Wasm.Module} {scope : Wasm.Scope} {results : List ValueType}
    {compiled : CompiledBody} (accepted : compileBody module scope results body = .ok compiled) :
    ∃ labels last, Labels.ofBody body = .ok labels ∧
      steps ⟨module, scope, results, labels.targeted⟩ (.initial results) (body.map some) = .ok last ∧
      compiled.code = .ofList last.finished := by
  obtain ⟨labels, scanned, accepted⟩ := bind_ok accepted
  obtain ⟨last, run, accepted⟩ := bind_ok accepted
  cases accepted
  exact ⟨labels, last, map_error_ok scanned, run_body_steps 0 _ run, rfl⟩

lemma body_marks (labels : Labels) (spelled : Spells code words) (closes : closing.op? = some .endBlock)
    (scanned : Labels.ofBody (words.reduceOption ++ [closing]) = .ok labels) : Marks labels.targeted [0] 1 code := by
  obtain ⟨middle, extended, marks, scanned⟩ := scan_arm (scan_marks spelled) scanned
  obtain ⟨after, step, scanned⟩ := scan_one scanned
  rw [step_close closes extended.opened] at step
  cases step
  cases scanned
  exact marks

lemma initial_wellformed (context : BodyContext) : Wellformed context (.initial context.results) where
  nested := .function _ 0 1 rfl rfl rfl rfl rfl Nat.one_pos
  settled := trivial
  fixed := trivial
  skipped := rfl

section FunctionEnd

variable {context : BodyContext} {meaning : Semantics ε S V} (view : View meaning)
  {state after : BodyState} {frame : Frame} (frames : state.frames = [frame]) (wellformed : Wellformed context state)

include frames wellformed

lemma function_frame : frame.kind = .function ∧ frame.results = context.results := by
  have nested := wellformed.nested
  rw [frames] at nested
  cases nested with
  | function frame height next kind label low plain results positive => exact ⟨kind, results⟩
  | inside frame outer height next kind positive label low lowered around => cases around

lemma end_function_ok (done : state.endBlock = .ok after) :
    (frame.unreachable = true ∨ context.results = []) ∧ after.finished = frame.code.reverse ∨
      context.results ≠ [] ∧ context.results.length ≤ state.stack.length ∧
        after.finished = frame.code.reverse ++ [.ret (state.stack.top context.results.length)] := by
  obtain ⟨kind, results⟩ := function_frame frames wellformed
  have outermost : frame.isFunction = true := frame.isFunction_iff.mpr kind
  unfold BodyState.endBlock at done
  rw [frames] at done
  simp only [outermost, if_true] at done
  split at done
  · rename_i silent
    simp only [pure_bind, frames] at done
    cases done
    refine .inl ⟨?_, by simp only [Frame.close, kind]⟩
    rw [← results]
    simpa using silent
  · rename_i returns
    obtain ⟨values, taken, done⟩ := bind_ok done
    obtain ⟨enough, listed⟩ := top_operands_ok taken
    simp only [pure_bind, BodyState.emit, BodyState.modifyTop, frames] at done
    cases done
    rw [results] at returns enough listed
    refine .inr ⟨?_, by omega, ?_⟩
    · intro none
      simp [none] at returns
    · simp [Frame.close, kind, listed]

lemma function_left {result : Result ε S V} {output : EStateM.Result ε (Machine S V) (Exit (List V) × Flag)}
    (stops : ∀ config, result ≠ .next config) (agrees : Agrees meaning state result output) :
    (∀ rest, follow output rest = output) ∧ ending output = result.ending context.results.length ∧
      result.ending context.results.length ≠ .stuck := by
  obtain ⟨kind, results⟩ := function_frame frames wellformed
  have only : ∀ depth target, [frame][depth]? = some target → depth = 0 ∧ target = frame := by
    intro depth target found
    cases depth with
    | zero => exact ⟨rfl, (Option.some.inj found).symm⟩
    | succ depth => cases found
  unfold Agrees at agrees
  rw [frames] at agrees
  cases agrees with
  | next config machine arrives => exact absurd rfl (stops config)
  | branch depth config machine flag target found inner lowered signals enough landed =>
    rw [(only depth target found).2] at inner
    exact absurd kind inner
  | outermost depth config machine target found outer enough store =>
    obtain ⟨outmost, same⟩ := only depth target found
    have arity : target.arity = context.results.length := by
      rw [same, Frame.arity, Frame.isLoop, kind, ← results]
      rfl
    rw [arity] at enough ⊢
    subst outmost
    have given : (Result.branch 0 config : Result ε S V).ending context.results.length
        = .returned (config.top context.results.length) config.store := by
      rw [Result.ending, if_neg (Nat.not_lt.mpr enough)]
    refine ⟨fun _ => rfl, ?_, ?_⟩
    · rw [given, ending, store]
    · rw [given]
      intro same
      cases same
  | returned values machine | trapped error machine => exact ⟨fun _ => rfl, rfl, fun same => by cases same⟩
  | unfinished machine flag => exact ⟨fun _ => rfl, rfl, fun same => by cases same⟩

lemma function_returns (done : state.endBlock = .ok after) :
    ∃ leave, after.finished = frame.code.reverse ++ leave ∧ ∀ machine : Machine S V, state.Live →
      ending (view.watch leave none machine)
        = (Result.next (state.config meaning machine) : Result ε S V).ending context.results.length ∧
      (Result.next (state.config meaning machine) : Result ε S V).ending context.results.length ≠ .stuck := by
  rcases end_function_ok frames wellformed done with
    ⟨none, finished⟩ | ⟨some, enough, finished⟩
  · refine ⟨[], by rw [finished, List.append_nil], ?_⟩
    intro machine live
    obtain ⟨top, _, same, reached⟩ := live
    rw [frames] at same
    cases same
    have empty : context.results.length = 0 := by
      rw [reached] at none
      simpa using none
    rw [Result.ending, if_pos empty]
    exact ⟨rfl, fun same => by cases same⟩
  · refine ⟨_, finished, ?_⟩
    intro machine _
    have positive : context.results.length ≠ 0 := mt List.length_eq_zero_iff.mp some
    have within : ¬ (state.config meaning machine).stack.length < context.results.length := by
      rw [BodyState.config, ValueStack.values_length]
      omega
    have listed : (state.stack.top context.results.length).map (machine.read meaning)
        = (state.config meaning machine).top context.results.length :=
      ValueStack.top_values meaning machine _ state.stack
    rw [view.watch_ret, listed, Result.ending, if_neg positive, if_neg within]
    exact ⟨rfl, fun same => by cases same⟩

lemma function_ends (done : state.endBlock = .ok after) : ∃ leave, after.finished = frame.code.reverse ++ leave ∧
      ∀ (code : List Stmt) (result : Result ε S V) (machine : Machine S V),
        Agrees meaning state result (view.watch code none machine) →
        ending (view.watch (code ++ leave) none machine) = result.ending context.results.length ∧
          result.ending context.results.length ≠ .stuck := by
  obtain ⟨leave, finished, returns⟩ := function_returns view frames wellformed done
  refine ⟨leave, finished, ?_⟩
  intro code result machine agrees
  rw [view.watch_append]
  generalize view.watch code none machine = output at agrees ⊢
  by_cases goes : ∃ config, result = .next config
  · obtain ⟨config, same⟩ := goes
    subst same
    cases agrees with
    | next config machine arrives =>
      obtain ⟨live, same⟩ := arrives
      subst same
      exact returns machine live
  · obtain ⟨left, ends⟩ := function_left frames wellformed (fun config same => goes ⟨config, same⟩) agrees
    rw [left]
    exact ends

end FunctionEnd

lemma words_end {meaning : Semantics ε S V} {view : View meaning} (positive : 0 < view.rounds)
    (spelled : Spells code words) (closes : closing.op? = some .endBlock)
    (marks : Marks context.targeted [0] 1 code) (valid : code.Valid context.unit)
    (sees : Sees context view (.initial context.results) words)
    (done : steps context (.initial context.results) (words ++ [some closing]) = .ok last)
    (machine : Machine S V) : ending (view.watch last.finished none machine)
        = (code.run meaning context.unit view.rounds ⟨[], machine.locals, machine.store⟩).ending context.results.length ∧
      (code.run meaning context.unit view.rounds ⟨[], machine.locals, machine.store⟩).ending context.results.length ≠ .stuck := by
  obtain ⟨state, run, done⟩ := steps_append done
  obtain ⟨emitted, proceeds⟩ := code_compiles positive spelled _ state (initial_wellformed context) marks valid sees run
  obtain ⟨closed, step, done⟩ := steps_cons done
  cases done
  obtain ⟨next, depth, ends, same⟩ := closing_step closes proceeds.wellformed step
  obtain ⟨first, frame, outer, others, start, frames, _, written, kept⟩ := emits_split proceeds.emits
  cases start
  cases kept
  obtain ⟨leave, finished, function⟩ := function_ends view frames proceeds.wellformed ends
  have follows := proceeds.follows ⟨_, [], rfl, rfl⟩ machine
  have code : last.finished = emitted ++ leave := by
    rw [same]
    show next.finished = emitted ++ leave
    rw [finished, written]
    simp [Frame.opening]
  rw [code]
  exact function emitted _ machine follows

def View.unflagged {meaning : Semantics ε S V} (seen : Flag → Interpretation ε (Machine S V) (List V))
    (rounds : Nat) (plain : seen none = machineMeaning meaning) : View meaning where
  seen := seen
  rounds := rounds
  acts := by
    intro action _
    rw [plain]
    rfl
  tests := by rw [plain]
  yields := by rw [plain]

/-- A compiled body ends as the structured code of its words, with the same values and the same
effects on the store. The end is the same whatever tasks, tests and returns mean while the flag is
set, so none happens then. -/
theorem compiled_body_ends_as_code (module : Wasm.Module) (scope : Wasm.Scope) (results : List ValueType)
    (body inner : List Instruction) (closing : Instruction) (compiled : CompiledBody) (code : Code)
    (accepted : compileBody module scope results body = .ok compiled) (whole : body = inner ++ [closing])
    (closes : closing.op? = some .endBlock) (spelled : Spells code (inner.map some))
    (valid : code.Valid ⟨module, scope, results⟩) (meaning : Semantics ε S V) (seen : Flag → Interpretation ε (Machine S V) (List V))
    (plain : seen none = machineMeaning meaning) (rounds : Nat) (machine : Machine S V) :
    let ending := (code.run meaning ⟨module, scope, results⟩ (rounds + 1) ⟨[], machine.locals, machine.store⟩).ending results.length
    ending ≠ .stuck ∧
      Target.ending (compiled.code.run (machineMeaning meaning) (rounds + 1) none machine) = ending ∧
      Target.ending (compiled.code.watch seen (rounds + 1) none machine) = ending := by
  obtain ⟨labels, last, scanned, run, same⟩ := compile_body_ok accepted
  let context : BodyContext := ⟨module, scope, results, labels.targeted⟩
  have instructions : (inner.map some).reduceOption = inner := by
    rw [List.reduceOption, List.filterMap_map]
    exact List.filterMap_some
  have marks : Marks context.targeted [0] 1 code := by
    rw [whole] at scanned
    apply body_marks labels spelled closes
    rw [instructions]
    exact scanned
  have unmarked : ∀ view : View meaning, Sees context view (.initial results) (inner.map some) := by
    intro view first second point split
    have member : none ∈ inner.map some := by
      rw [split]
      simp
    simp at member
  rw [whole, List.map_append, List.map_singleton] at run
  have ends := fun view positive => words_end positive spelled closes marks valid (unmarked view) run
    machine
  obtain ⟨ran, going⟩ := ends (.unflagged (fun _ => machineMeaning meaning) (rounds + 1) rfl) (Nat.succ_pos _)
  obtain ⟨watched, _⟩ := ends (.unflagged seen (rounds + 1) plain) (Nat.succ_pos _)
  rw [same, Target.block_run_watch]
  exact ⟨going, ran, watched⟩

def counting : Semantics Unit Nat Int32 where
  constant
    | .i32 value => value
    | _ => 0
  word := id
  perform := fun task results operands count =>
    match task, results, operands with
    | .numeric (.convert (.convert .f64 .i32 .signed)), 1, [a] => .ok #v[a] count
    | .numeric (.convert .promote), 1, [a] => .ok #v[a] count
    | .numeric (.intTest .i32), 1, [a] => .ok #v[if a = 0 then 1 else 0] (count + 1)
    | .numeric (.intBinary .i32 .sub), 1, [a, b] => .ok #v[a - b] (count + 1)
    | _, results, _ => .ok (Vector.replicate results 0) (count + 1)
  unreachable := ()
  observe := fun stack _ count => count + 100 * stack.length
  word_constant := fun _ => rfl
  convert_keeps := fun _ => rfl
  promote_keeps := fun _ => rfl

/-- Counts the first local variable down to 0. The loop is left by a branch over two blocks. -/
def countdown : Code := .block (.block .block .empty)
    (.loop (.block .loop .empty) (.plain (.indexed .localGet 0) (.plain (.simple (.intTest .i32)) (.plain (.branch .brIf 1)
        (.plain (.indexed .localGet 0) (.plain (.i32Const 1) (.plain (.simple (.intBinary .i32 .sub))
          (.plain (.indexed .localSet 0) (.plain (.branch .br 0) .done)))))))) .done)
    (.plain (.indexed .localGet 0) .done)

def countdownWords : List Instruction :=
  [.block .block .empty, .block .loop .empty, .indexed .localGet 0, .simple (.intTest .i32),
    .branch .brIf 1, .indexed .localGet 0, .i32Const 1, .simple (.intBinary .i32 .sub),
    .indexed .localSet 0, .branch .br 0, .endBlock, .endBlock, .indexed .localGet 0]

lemma countdown_spelled : Spells countdown (countdownWords.map some) := by
  have words := Spells.block (.block .block .empty) .endBlock _ _ _ _ (by decide) (by decide)
    (.loop (.block .loop .empty) .endBlock _ _ _ _ (by decide) (by decide)
      (.plain (.indexed .localGet 0) _ _ (by decide) (.plain (.simple (.intTest .i32)) _ _ (by decide)
        (.plain (.branch .brIf 1) _ _ (by decide) (.plain (.indexed .localGet 0) _ _ (by decide)
          (.plain (.i32Const 1) _ _ (by decide) (.plain (.simple (.intBinary .i32 .sub)) _ _ (by decide)
            (.plain (.indexed .localSet 0) _ _ (by decide) (.plain (.branch .br 0) _ _ (by decide) .done)))))))) .done)
    (.plain (.indexed .localGet 0) _ _ (by decide) .done)
  exact words

/-- The flag is set on the way out of the loop and cleared behind the outer block. -/
lemma countdown_compiled : ∃ compiled, compileBody .empty (Wasm.Module.empty.scopeWith [.i32]) [.i32]
    (countdownWords ++ [.endBlock]) = .ok compiled := by
  have compiles : (compileBody .empty (Wasm.Module.empty.scopeWith [.i32]) [.i32]
      (countdownWords ++ [.endBlock])).isOk = true := by decide +kernel
  generalize compileBody _ _ _ _ = result at compiles ⊢
  cases result with
  | error fault => cases compiles
  | ok compiled => exact ⟨compiled, rfl⟩

theorem countdown_ends : ∃ compiled, compileBody .empty (Wasm.Module.empty.scopeWith [.i32]) [.i32]
        (countdownWords ++ [.endBlock]) = .ok compiled ∧
      Target.ending (compiled.code.run (machineMeaning counting) 4 none ⟨fun _ => 0, fun _ => 2, 0⟩) = .returned [0] 5 := by
  obtain ⟨compiled, output⟩ := countdown_compiled
  obtain ⟨_, ends, _⟩ := compiled_body_ends_as_code .empty (Wasm.Module.empty.scopeWith [.i32]) [.i32] _
    countdownWords .endBlock compiled countdown output rfl (by decide) countdown_spelled
    (by decide +kernel) counting (fun _ => machineMeaning counting) rfl 3 ⟨fun _ => 0, fun _ => 2, 0⟩
  refine ⟨compiled, output, ends.trans ?_⟩
  decide +kernel

end WasmLua.Compile
