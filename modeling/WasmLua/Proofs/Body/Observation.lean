import WasmLua.Proofs.Body.ControlFlow
import WasmLua.Proofs.Body.Probes

namespace WasmLua.Wasm

open List

def insertMark (words : List (Option Instruction)) (position : Nat) : List (Option Instruction) :=
  words.take position ++ none :: words.drop position

variable {first rest words : List (Option Instruction)} {position : Nat} {code : Code}

lemma insert_inside (inside : position ≤ first.length) :
    insertMark (first ++ rest) position = insertMark first position ++ rest := by
  simp only [insertMark, take_append_of_le_length inside, drop_append_of_le_length inside, append_assoc, cons_append]

variable {word : Option Instruction}

lemma insert_behind (behind : first.length < position) : insertMark (first ++ word :: rest) position
      = first ++ word :: insertMark rest (position - (first.length + 1)) := by
  obtain ⟨further, same⟩ : ∃ further, position = first.length + (further + 1) := ⟨position - (first.length + 1), by omega⟩
  subst same
  have shift : first.length + (further + 1) - (first.length + 1) = further := by omega
  simp only [insertMark, take_append, drop_append, take_of_length_le (Nat.le_add_right _ _),
    drop_of_length_le (Nat.le_add_right _ _), Nat.add_sub_cancel_left, shift, take_succ_cons,
    drop_succ_cons, nil_append, append_assoc, cons_append]

lemma insert_first : insertMark (word :: rest) (position + 1) = word :: insertMark rest position := rfl

namespace Code

def length : Code → Nat
  | .done => 0
  | .mark rest => rest.length + 1
  | .plain _ rest => rest.length + 1
  | .block _ body rest => body.length + rest.length + 2
  | .loop _ body rest => body.length + rest.length + 2
  | .guarded _ body rest => body.length + rest.length + 2
  | .conditional _ first second rest => first.length + second.length + rest.length + 3

def markAt : Code → Nat → Code
  | code, 0 => .mark code
  | .done, _ + 1 => .mark .done
  | .mark rest, position + 1 => .mark (rest.markAt position)
  | .plain instruction rest, position + 1 => .plain instruction (rest.markAt position)
  | .block opening body rest, position + 1 =>
    if position ≤ body.length then .block opening (body.markAt position) rest
    else .block opening body (rest.markAt (position - (body.length + 1)))
  | .loop opening body rest, position + 1 =>
    if position ≤ body.length then .loop opening (body.markAt position) rest
    else .loop opening body (rest.markAt (position - (body.length + 1)))
  | .guarded opening body rest, position + 1 =>
    if position ≤ body.length then .guarded opening (body.markAt position) rest
    else .guarded opening body (rest.markAt (position - (body.length + 1)))
  | .conditional opening first second rest, position + 1 =>
    if position ≤ first.length then .conditional opening (first.markAt position) second rest
    else if position - (first.length + 1) ≤ second.length then
      .conditional opening first (second.markAt (position - (first.length + 1))) rest
    else
      .conditional opening first second (rest.markAt (position - (first.length + 1) - (second.length + 1)))

lemma mark_valid (unit : Surroundings) (code : Code) (position : Nat) (valid : code.Valid unit) :
    (code.markAt position).Valid unit := by
  induction code generalizing position with
  | done => cases position <;> trivial
  | mark rest ih =>
    cases position with
    | zero => exact valid
    | succ position => exact ih position valid
  | plain instruction rest ih =>
    cases position with
    | zero => exact valid
    | succ position => exact ⟨valid.1, ih position valid.2⟩
  | block opening body rest ihBody ihRest | loop opening body rest ihBody ihRest =>
    cases position with
    | zero => exact valid
    | succ position =>
      rw [markAt]
      split
      · exact ⟨ihBody position valid.1, valid.2⟩
      · exact ⟨valid.1, ihRest _ valid.2⟩
  | guarded opening body rest ihBody ihRest =>
    cases position with
    | zero => exact valid
    | succ position =>
      rw [markAt]
      split
      · exact ⟨valid.1, ihBody position valid.2.1, valid.2.2⟩
      · exact ⟨valid.1, valid.2.1, ihRest _ valid.2.2⟩
  | conditional opening first second rest ihFirst ihSecond ihRest =>
    cases position with
    | zero => exact valid
    | succ position =>
      rw [markAt]
      split
      · exact ⟨ihFirst position valid.1, valid.2⟩
      · split
        · exact ⟨valid.1, ihSecond _ valid.2.1, valid.2.2⟩
        · exact ⟨valid.1, valid.2.1, ihRest _ valid.2.2⟩

end Code

lemma spelled_length (spelled : Spells code words) : words.length = code.length := by
  induction spelled <;> simp only [Code.length, length_nil, length_cons, length_append]
  all_goals omega

lemma mark_spells (position : Nat) (spelled : Spells code words) (within : position ≤ words.length) :
    Spells (code.markAt position) (insertMark words position) := by
  induction spelled generalizing position with
  | done =>
    cases Nat.le_zero.mp within
    exact .mark _ _ .done
  | mark rest words follow ih =>
    cases position with
    | zero => exact .mark _ _ (.mark _ _ follow)
    | succ position => exact .mark _ _ (ih position (Nat.le_of_succ_le_succ within))
  | plain instruction rest words single follow ih =>
    cases position with
    | zero => exact .mark _ _ (.plain _ _ _ single follow)
    | succ position => exact .plain _ _ _ single (ih position (Nat.le_of_succ_le_succ within))
  | block _ _ body _ _ _ opens closes inside follow ihBody ihRest
  | loop _ _ body _ _ _ opens closes inside follow ihBody ihRest
  | guarded _ _ body _ _ _ opens closes inside follow ihBody ihRest =>
    have size := spelled_length inside
    cases position with
    | zero =>
      refine .mark _ _ ?_
      constructor <;> assumption
    | succ position =>
      simp only [length_cons, length_append] at within
      rw [Code.markAt, insert_first]
      split
      · rw [insert_inside (by omega)]
        have marked := ihBody position (by omega)
        constructor <;> assumption
      · rw [insert_behind (by omega), size]
        have marked := ihRest (position - (body.length + 1)) (by omega)
        constructor <;> assumption
  | conditional opening middle closing first second rest before after words opens divides closes inside
      other follow ihFirst ihSecond ihRest =>
    have size := spelled_length inside
    have size' := spelled_length other
    cases position with
    | zero => exact .mark _ _ (.conditional _ _ _ _ _ _ _ _ _ opens divides closes inside other follow)
    | succ position =>
      simp only [length_cons, length_append] at within
      rw [Code.markAt, insert_first]
      split
      · rw [insert_inside (by omega)]
        exact .conditional _ _ _ _ _ _ _ _ _ opens divides closes (ihFirst position (by omega)) other follow
      · rw [insert_behind (by omega), size]
        split
        · rw [insert_inside (by omega)]
          exact .conditional _ _ _ _ _ _ _ _ _ opens divides closes inside (ihSecond _ (by omega)) follow
        · rw [insert_behind (by omega), size']
          exact .conditional _ _ _ _ _ _ _ _ _ opens divides closes inside other (ihRest _ (by omega))

end WasmLua.Wasm

namespace WasmLua.Compile

open List
open Target (Block Interpretation Machine machineMeaning)
open Wasm (Code Instruction Semantics Spells ValueType insertMark)

variable {ε S V : Type}

def observing (meaning : Semantics ε S V) (stack : ValueStack) : Interpretation ε (Machine S V) (List V) :=
  { machineMeaning meaning with
    act := fun action machine =>
      if action = probe then
        .ok () { machine with
          store := meaning.observe (stack.values meaning machine) machine.locals machine.store }
      else Target.act meaning action machine }

def View.observing (meaning : Semantics ε S V) (stack : ValueStack) (rounds : Nat) : View meaning where
  seen := fun _ => Compile.observing meaning stack
  rounds := rounds
  acts := by
    intro action emitted
    funext machine
    simp only [Compile.observing, if_neg emitted]
  tests := rfl
  yields := rfl

lemma View.observing_shows (meaning : Semantics ε S V) (stack : ValueStack) (rounds : Nat) :
    (View.observing meaning stack rounds).Shows stack := by
  intro machine
  simp only [View.observing, Compile.observing, if_true]

lemma sees_inserted {context : BodyContext} {meaning : Semantics ε S V} {view : View meaning}
    {state point : BodyState} {words : List Instruction} {position : Nat}
    (reached : steps context state ((words.take position).map some) = .ok point)
    (shows : view.Shows point.stack) : Sees context view state (insertMark (words.map some) position) := by
  intro first second other split run
  have only : (words.map some).take position = first := by
    have plain : none ∉ words.map some := by simp
    exact ((append_cons_inj_of_notMem (fun member => plain (mem_of_mem_take member))
      fun member => plain (mem_of_mem_drop member)).mp split).1
  rw [← only, ← map_take, reached] at run
  cases run
  exact shows

lemma inserted_instructions (words : List Instruction) (position : Nat) (last : Instruction) :
    (insertMark (words.map some) position ++ [some last]).reduceOption = words ++ [last] := by
  have plain : ∀ words : List Instruction, (words.map some).reduceOption = words := by
    intro words
    rw [reduceOption, filterMap_map]
    exact filterMap_some
  rw [insertMark, reduceOption_append, reduceOption_append, reduceOption_cons_of_none,
    ← map_take, ← map_drop, plain, plain, take_append_drop]
  rfl

/-- Behind a point of a body the compiler has a stack of operands. Code with a probe at that point
compiles to the same body, and whoever reads the operands and variables at the probe sees the stack
and the variables of the structured code there, whatever the observer does to the store. -/
theorem compiled_body_holds_values (module : Wasm.Module) (scope : Wasm.Scope) (results : List ValueType)
    (body inner : List Instruction) (closing : Instruction) (compiled : CompiledBody) (code : Code)
    (accepted : compileBody module scope results body = .ok compiled) (whole : body = inner ++ [closing])
    (closes : closing.op? = some .endBlock) (spelled : Spells code (inner.map some))
    (valid : code.Valid ⟨module, scope, results⟩) (position : Nat) (within : position ≤ inner.length) :
    ∃ (labels : Labels) (point : BodyState) (probed : Block), Labels.ofBody body = .ok labels ∧
      (inner.take position).foldlM (stepBody ⟨module, scope, results, labels.targeted⟩) (.initial results)
        = .ok point ∧ probed.erase = compiled.code ∧ ∀ {ε S V : Type} (meaning : Semantics ε S V) (rounds : Nat) (machine : Machine S V),
        let ending := ((code.markAt position).run meaning ⟨module, scope, results⟩ (rounds + 1)
          ⟨[], machine.locals, machine.store⟩).ending results.length
        ending ≠ .stuck ∧
          Target.ending (probed.run (observing meaning point.stack) (rounds + 1) none machine) = ending := by
  obtain ⟨labels, final, scanned, run, same⟩ := compile_body_ok accepted
  let context : BodyContext := ⟨module, scope, results, labels.targeted⟩
  let words := insertMark (inner.map some) position
  have length : (inner.map some).length = inner.length := length_map _
  have marked : Spells (code.markAt position) words :=
    Wasm.mark_spells position spelled (by rw [length]; exact within)
  have instructions := inserted_instructions inner position closing
  -- The compiler gets through the marked words, since it does so without the mark.
  obtain ⟨last, done, erased⟩ : ∃ last,
      steps context (.initial results) (words ++ [some closing]) = .ok last ∧ last.erase = final := by
    have compiled := erase_steps context (.initial results) (words ++ [some closing])
    have start : (BodyState.initial results).erase = .initial results := rfl
    rw [instructions, start, ← whole, run] at compiled
    cases output : steps context (.initial results) (words ++ [some closing]) with
    | error fault =>
      rw [output] at compiled
      cases compiled
    | ok last =>
      rw [output] at compiled
      cases compiled
      exact ⟨last, rfl, rfl⟩
  obtain ⟨point, reached⟩ : ∃ point,
      steps context (.initial results) ((inner.take position).map some) = .ok point := by
    obtain ⟨middle, first, _⟩ := steps_append done
    obtain ⟨point, first, _⟩ := steps_append first
    rw [← map_take] at first
    exact ⟨point, first⟩
  have marks : Marks context.targeted [0] 1 (code.markAt position) := by
    refine body_marks labels marked closes ?_
    rw [reduceOption_append] at instructions
    rw [whole, ← instructions] at scanned
    exact scanned
  refine ⟨labels, point, .ofList last.finished, scanned, ?_, ?_, ?_⟩
  · rw [steps, foldlM_map] at reached
    exact reached
  · rw [same, ← erased, Target.erase_of_list]
    rfl
  · intro ε S V meaning rounds machine
    have sees := sees_inserted reached (View.observing_shows meaning point.stack (rounds + 1))
    obtain ⟨ends, going⟩ := words_end (Nat.succ_pos _) marked closes marks
      (code.mark_valid _ position valid) sees done machine
    rw [Target.block_run_watch]
    exact ⟨going, ends⟩

/-- In front of the subtraction the observer sees the variable and the constant, both deferred. -/
theorem countdown_observed : ∃ (compiled : CompiledBody) (stack : ValueStack) (probed : Block),
      compileBody .empty (Wasm.Module.empty.scopeWith [.i32]) [.i32] (countdownWords ++ [.endBlock])
        = .ok compiled ∧ probed.erase = compiled.code ∧
      Target.ending (probed.run (observing counting stack) 4 none ⟨fun _ => 0, fun _ => 2, 0⟩) = .returned [0] 405 := by
  obtain ⟨compiled, output⟩ := countdown_compiled
  obtain ⟨_, point, probed, _, _, erased, sees⟩ := compiled_body_holds_values .empty
    (Wasm.Module.empty.scopeWith [.i32]) [.i32] _ countdownWords .endBlock compiled countdown output rfl
    (by decide) countdown_spelled (by decide +kernel) 7 (by decide)
  refine ⟨compiled, point.stack, probed, output, erased, ?_⟩
  exact (sees counting 3 ⟨fun _ => 0, fun _ => 2, 0⟩).2.trans (by decide +kernel)

end WasmLua.Compile
