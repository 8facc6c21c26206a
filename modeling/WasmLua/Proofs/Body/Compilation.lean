import WasmLua.Proofs.Body.Nesting

namespace WasmLua.Compile

open Nat
open BodyState List
open Target (Stmt)
open Wasm (Code Config Instruction Op Result Semantics Signature Spells)

variable {ε S V : Type}

def BodyState.observe (state : BodyState) : BodyState := state.modifyTop fun frame =>
    if frame.unreachable then frame else { frame with code := .act probe :: frame.code }

def stepWord (context : BodyContext) (state : BodyState) : Option Instruction → Except BodyFault BodyState
  | none => .ok state.observe
  | some word => stepBody context state word

def steps (context : BodyContext) (state : BodyState) (words : List (Option Instruction)) : Except BodyFault BodyState :=
  words.foldlM (stepWord context) state

variable {state last after middle before start opened : BodyState} {word closing opening : Instruction}
  {words first second inner : List (Option Instruction)} {body rest : Code} {code : List Stmt}
  {blocks : Nat} {run : Config S V → Result ε S V} {kind : FrameKind} {type : Signature} {fresh : Frame}

variable {context : BodyContext}

lemma steps_cons (done : steps context state (some word :: words) = .ok last) :
    ∃ middle, stepBody context state word = .ok middle ∧ steps context middle words = .ok last := by
  rw [steps, foldlM_cons] at done
  exact bind_ok done

lemma steps_append (done : steps context state (first ++ second) = .ok last) :
    ∃ middle, steps context state first = .ok middle ∧ steps context middle second = .ok last := by
  rw [steps, foldlM_append] at done
  exact bind_ok done

lemma step_compiles (reached : state.Live ∨ skip? state word = none)
    (done : stepBody context state word = .ok after) : ∃ next, compileInstruction context state word = .ok next ∧
      after = { next with maxDepth := max next.maxDepth next.frames.length } := by
  unfold stepBody at done
  split at done
  · cases done
  · rename_i frame outer frames
    have compiled : (if frame.unreachable then skip? state word else none) = none := by
      rcases reached with ⟨first, others, top, live⟩ | skipped
      · rw [frames] at top
        cases top
        simp [live]
      · rw [skipped, ite_self]
    rw [compiled] at done
    obtain ⟨next, compile, done⟩ := bind_ok done
    exact ⟨next, compile, (Except.ok.inj done).symm⟩

lemma step_operates (found : word.op? = some op) (other : op ≠ .call)
    (reached : state.Live ∨ skip? state word = none) (done : stepBody context state word = .ok after) :
    ∃ next, compileOp context state word op = .ok next ∧
      after = { next with maxDepth := max next.maxDepth next.frames.length } := by
  obtain ⟨next, compiled, same⟩ := step_compiles reached done
  refine ⟨next, ?_, same⟩
  unfold compileInstruction at compiled
  rw [found] at compiled
  split at compiled
  · rename_i none
    cases none
  · rename_i call
    exact absurd (Option.some.inj call) other
  · rename_i found
    cases found
    exact map_error_ok compiled

lemma steps_behind (words : List (Option Instruction)) (step : stepBody context state word = .ok middle) :
    steps context state (some word :: words) = steps context middle words := by
  rw [steps, foldlM_cons, stepWord, step]
  rfl

lemma steps_join (second : List (Option Instruction)) (run : steps context state first = .ok middle) :
    steps context state (first ++ second) = steps context middle second := by
  unfold steps at run
  rw [steps, foldlM_append, run]
  rfl

section Dead

variable (context : BodyContext) {state : BodyState} {frame : Frame} {outer : List Frame}
  (frames : state.frames = frame :: outer) (dead : frame.unreachable = true)

include frames dead

lemma dead_step {next : BodyState} (skips : skip? state word = some next) : stepBody context state word = .ok next := by
  unfold stepBody
  rw [frames]
  simp only [dead, if_true, skips]
  rfl

lemma dead_plain (single : ∀ op ∈ word.op?, op ∉ [Op.block, .loop, .ifElse, .elseArm, .endBlock]) :
    stepBody context state word = .ok state := by
  apply dead_step context frames dead
  unfold skip?
  split
  case h_1 same | h_2 same | h_3 same | h_4 same | h_5 same => exact absurd (single _ same) (by simp)
  case h_6 => rfl

lemma dead_open (word : Instruction) (opens : word.op? = some .block ∨ word.op? = some .loop ∨ word.op? = some .ifElse) :
    stepBody context state word = .ok { state with skipped := state.skipped + 1, nextLabel := state.nextLabel + 1 } := by
  apply dead_step context frames dead
  rcases opens with same | same | same <;> simp only [skip?, same]

lemma dead_else (divides : word.op? = some .elseArm) (inside : 0 < state.skipped) : stepBody context state word = .ok state := by
  apply dead_step context frames dead
  simp only [skip?, divides, if_pos inside]

lemma dead_close (closes : word.op? = some .endBlock) (inside : 0 < state.skipped) :
    stepBody context state word = .ok { state with skipped := state.skipped - 1 } := by
  apply dead_step context frames dead
  simp only [skip?, closes, if_pos inside]

omit context in
lemma dead_observe : state.observe = state := by
  unfold observe modifyTop
  rw [frames]
  simp only [dead, if_true]
  rw [← frames]

end Dead

def Skips (context : BodyContext) (code : Code) (words : List (Option Instruction)) : Prop :=
  ∀ (state : BodyState) (frame : Frame) (outer : List Frame), state.frames = frame :: outer → frame.unreachable = true →
    steps context state words = .ok { state with nextLabel := state.nextLabel + code.blocks }

lemma block_skips (opens : opening.op? = some .block ∨ opening.op? = some .loop ∨ opening.op? = some .ifElse)
    (closes : closing.op? = some .endBlock) (inside : Skips context body inner)
    (follow : Skips context rest words) (state : BodyState) (frame : Frame) (outer : List Frame)
    (frames : state.frames = frame :: outer) (dead : frame.unreachable = true) :
    steps context state (some opening :: (inner ++ some closing :: words))
      = .ok { state with nextLabel := state.nextLabel + (body.blocks + 1 + rest.blocks) } := by
  let entered := { state with skipped := state.skipped + 1, nextLabel := state.nextLabel + 1 }
  let inside' := { entered with nextLabel := entered.nextLabel + body.blocks }
  let behind := { inside' with skipped := inside'.skipped - 1 }
  calc steps context state (some opening :: (inner ++ some closing :: words))
    _ = steps context entered (inner ++ some closing :: words) := steps_behind _ (dead_open context frames dead opening opens)
    _ = steps context inside' (some closing :: words) := steps_join _ (inside entered frame outer frames dead)
    _ = steps context behind words := steps_behind words (dead_close context frames dead closes (succ_pos _))
    _ = .ok { behind with nextLabel := behind.nextLabel + rest.blocks } := follow behind frame outer frames dead
    _ = .ok { state with nextLabel := state.nextLabel + (body.blocks + 1 + rest.blocks) } := by
      simp only [entered, inside', behind, Except.ok.injEq, mk.injEq, true_and, and_true]
      omega

lemma dead_steps (context : BodyContext) {code : Code} (spelled : Spells code words) : Skips context code words := by
  induction spelled with
  | done =>
    intro state frame outer frames dead
    rfl
  | mark rest words follow ih =>
    intro state frame outer frames dead
    rw [steps, foldlM_cons, stepWord, dead_observe frames dead]
    exact ih state frame outer frames dead
  | plain instruction rest words single follow ih =>
    intro state frame outer frames dead
    rw [steps_behind words (dead_plain context frames dead single)]
    exact ih state frame outer frames dead
  | block _ _ _ _ _ _ opens closes _ _ ihBody ihRest | loop _ _ _ _ _ _ opens closes _ _ ihBody ihRest
  | guarded _ _ _ _ _ _ opens closes _ _ ihBody ihRest => exact block_skips (by simp [opens]) closes ihBody ihRest
  | conditional opening middle closing first second rest before after words opens divides closes inside
      other follow ihFirst ihSecond ihRest =>
    intro state frame outer frames dead
    let entered := { state with skipped := state.skipped + 1, nextLabel := state.nextLabel + 1 }
    let divided := { entered with nextLabel := entered.nextLabel + first.blocks }
    let inside' := { divided with nextLabel := divided.nextLabel + second.blocks }
    let behind := { inside' with skipped := inside'.skipped - 1 }
    calc steps context state (some opening :: (before ++ some middle :: (after ++ some closing :: words)))
      _ = steps context entered (before ++ some middle :: (after ++ some closing :: words)) :=
        steps_behind _ (dead_open context frames dead opening (.inr (.inr opens)))
      _ = steps context divided (some middle :: (after ++ some closing :: words)) :=
        steps_join _ (ihFirst entered frame outer frames dead)
      _ = steps context divided (after ++ some closing :: words) :=
        steps_behind _ (dead_else context frames dead divides (succ_pos _))
      _ = steps context inside' (some closing :: words) := steps_join _ (ihSecond divided frame outer frames dead)
      _ = steps context behind words := steps_behind words (dead_close context frames dead closes (succ_pos _))
      _ = .ok { behind with nextLabel := behind.nextLabel + rest.blocks } := ihRest behind frame outer frames dead
      _ = .ok { state with
            nextLabel := state.nextLabel + (Code.conditional opening first second rest).blocks } := by
        simp only [entered, divided, inside', behind, Code.blocks, Except.ok.injEq, mk.injEq, true_and, and_true]
        omega

/-- The compiler gets from one state to another with statements that do what code does, if the first
state is reached. -/
structure Proceeds (context : BodyContext) {meaning : Semantics ε S V} (view : View meaning)
    (before after : BodyState) (blocks : Nat) (run : Config S V → Result ε S V) (code : List Stmt) :
    Prop where
  emits : Emits before.frames after.frames code
  wellformed : Wellformed context after
  labels : after.nextLabel = before.nextLabel + blocks
  follows : before.Live → Follows view before after run code

def View.Shows {meaning : Semantics ε S V} (view : View meaning) (stack : ValueStack) : Prop :=
  ∀ machine, (view.seen none).act probe machine = .ok () { machine with
    store := meaning.observe (stack.values meaning machine) machine.locals machine.store }

def Sees (context : BodyContext) {meaning : Semantics ε S V} (view : View meaning) (state : BodyState)
    (words : List (Option Instruction)) : Prop :=
  ∀ first second point, words = first ++ none :: second → steps context state first = .ok point → view.Shows point.stack

def Compiles (context : BodyContext) {meaning : Semantics ε S V} (view : View meaning) (code : Code)
    (words : List (Option Instruction)) : Prop :=
  ∀ before after, Wellformed context before → Marks context.targeted (before.frames.map (·.label)) before.nextLabel code →
    code.Valid context.unit → Sees context view before words → steps context before words = .ok after →
    ∃ emitted, Proceeds context view before after code.blocks (code.run meaning context.unit view.rounds) emitted

section Compiling

variable {context : BodyContext} {meaning : Semantics ε S V} {view : View meaning}

lemma simulates_deeper (depth : Nat)
    (simulates : Simulates context view before after blocks run code) :
    Simulates context view before { after with maxDepth := depth } blocks run code :=
  have ready := simulates.wellformed
  ⟨simulates.emits, ⟨ready.nested, ready.settled, ready.fixed, ready.skipped⟩, simulates.labels, simulates.follows⟩

lemma simulates_then {others : Nat} (run : Config S V → Result ε S V) {next : Config S V → Result ε S V}
    {more : List Stmt} (first : Simulates context view before middle blocks run code)
    (rest : Proceeds context view middle after others next more) :
    Proceeds context view before after (blocks + others) (fun config => (run config).andThen next) (code ++ more) where
  emits := emits_trans first.emits rest.emits
  wellformed := rest.wellformed
  labels := by rw [rest.labels, first.labels, add_assoc]
  follows := fun _ => follows_and_then run next more (emits_widens rest.emits) first.follows rest.follows

lemma dead_proceeds {code : Code} (spelled : Spells code words) (wellformed : Wellformed context before)
    (dead : ¬ before.Live) (done : steps context before words = .ok after) :
    Proceeds context view before after code.blocks run [] := by
  obtain ⟨frame, outer, frames⟩ : ∃ frame outer, before.frames = frame :: outer := by
    have nested := wellformed.nested
    cases frames : before.frames with
    | nil =>
      rw [frames] at nested
      cases nested
    | cons frame outer => exact ⟨frame, outer, rfl⟩
  have unreached : frame.unreachable = true := by
    cases reached : frame.unreachable with
    | true => rfl
    | false => exact absurd ⟨frame, outer, frames, reached⟩ dead
  rw [dead_steps context spelled before frame outer frames unreached] at done
  cases done
  refine ⟨nested_emits wellformed.nested, ⟨?_, wellformed.settled, wellformed.fixed, wellformed.skipped⟩, rfl, fun live => absurd live dead⟩
  apply nested_above context _ _ wellformed.nested _ (le_add_right _ _)
  intro first here
  exact (nested_bounds wellformed.nested first (mem_of_mem_head? here)).2

lemma sees_before (sees : Sees context view state (first ++ second)) : Sees context view state first := by
  intro before after point split reached
  refine sees before (after ++ second) point ?_ reached
  rw [split, append_assoc, cons_append]

lemma sees_behind (middle : BodyState) (first : List (Option Instruction))
    (run : steps context state first = .ok middle) (sees : Sees context view state (first ++ second)) :
    Sees context view middle second := by
  intro before after point split reached
  refine sees (first ++ before) after point ?_ ?_
  · rw [split, append_assoc]
  · rw [steps_join before run]
    exact reached

lemma sees_step (step : stepBody context state word = .ok middle)
    (sees : Sees context view state (some word :: words)) : Sees context view middle words :=
  sees_behind middle [some word] (steps_behind [] step) sees

lemma observe_simulates (wellformed : Wellformed context state) (live : state.Live)
    (shows : view.Shows state.stack) : Simulates context view state state.observe 0 (fun config => .next { config with
        store := meaning.observe config.stack config.locals config.store }) [.act probe] := by
  obtain ⟨frame, outer, frames, reached⟩ := live
  let observed : Frame := { frame with code := .act probe :: frame.code }
  have grows : frame.Grows observed := ⟨⟨rfl, rfl, rfl, rfl, rfl, rfl, id, id, id⟩, rfl⟩
  have same : state.observe = { state with frames := observed :: outer } := by
    simp only [observe, modifyTop, frames, reached, Bool.false_eq_true, if_false, observed]
  have fixed := wellformed.fixed
  rw [height, frames] at fixed
  have emits : Emits state.frames (observed :: outer) [.act probe] := by
    rw [frames]
    exact .intro frame observed outer outer _ grows rfl (keeps_all_refl outer)
  rw [same]
  refine ⟨emits, ⟨?_, wellformed.settled, fixed, wellformed.skipped⟩, rfl, ?_⟩
  · exact nested_widens _ _ (emits_widens emits) wellformed.nested
  · intro machine
    have shown : view.watch [.act probe] none machine = .ok (.next, none) { machine with
        store := meaning.observe (state.stack.values meaning machine) machine.locals machine.store } := by
      rw [View.watch, Target.watch_single, Target.Stmt.watch, shows machine]
    rw [shown]
    exact .next _ _ ⟨⟨observed, outer, rfl, reached⟩, rfl⟩

lemma closing_step (closes : word.op? = some .endBlock) (wellformed : Wellformed context state)
    (step : stepBody context state word = .ok after) :
    ∃ next depth, state.endBlock = .ok next ∧ after = { next with maxDepth := depth } := by
  have reached : skip? state word = none := by
    simp only [skip?, closes, wellformed.skipped, lt_irrefl, if_false]
  obtain ⟨next, compiled, same⟩ := step_operates closes nofun (.inr reached) step
  exact ⟨next, _, compiled, same⟩

lemma compiles_behind (first : Simulates context view before middle blocks run code) (compiles : Compiles context view rest words)
    (marks : Marks context.targeted (before.frames.map (·.label)) (before.nextLabel + blocks) rest)
    (valid : rest.Valid context.unit) (sees : Sees context view middle words) (done : steps context middle words = .ok after) :
    ∃ emitted, Proceeds context view before after (blocks + rest.blocks)
      (fun config => (run config).andThen (rest.run meaning context.unit view.rounds)) emitted := by
  rw [← first.labels, ← widened_labels (emits_widens first.emits)] at marks
  obtain ⟨more, proceeds⟩ := compiles middle after first.wellformed marks valid sees done
  exact ⟨code ++ more, simulates_then run first proceeds⟩

variable {enter : List Stmt}

lemma opened_marks (starts : Starts context view start opened kind type fresh enter)
    (marks : Marks context.targeted (start.nextLabel :: start.frames.map (·.label)) (start.nextLabel + 1)
      body) : Marks context.targeted (opened.frames.map (·.label)) opened.nextLabel body := by
  rw [opened_labels starts.opens, starts.label, starts.made]
  exact marks

lemma arm_wraps {kind : FrameKind}
    (starts : Starts context view start opened kind type fresh enter) (inner : kind ≠ .function)
    (closes : closing.op? = some .endBlock) {inside : List (Option Instruction)} (compiles : Compiles context view body inside)
    (marks : Marks context.targeted (start.nextLabel :: start.frames.map (·.label)) (start.nextLabel + 1)
      body) (valid : body.Valid context.unit) (sees : Sees context view opened (inside ++ some closing :: words))
    (done : steps context opened (inside ++ some closing :: words) = .ok after) : ∃ last closed frame parent others leave code,
      Wraps context view start opened last closed type frame parent others enter leave ∧
      frame.kind = kind ∧ frame.thenArm = none ∧ frame.code = code.reverse ∧
      last.nextLabel = start.nextLabel + (body.blocks + 1) ∧
      Follows view opened last (body.run meaning context.unit view.rounds) code ∧
      Sees context view closed words ∧ steps context closed words = .ok after := by
  obtain ⟨last, within, done⟩ := steps_append done
  obtain ⟨code, proceeds⟩ := compiles opened last starts.opens.wellformed (opened_marks starts marks) valid
    (sees_before sees) within
  have behind := sees_behind last inside within sees
  obtain ⟨closed, step, done⟩ := steps_cons done
  obtain ⟨next, depth, ends, same⟩ := closing_step closes proceeds.wellformed step
  obtain ⟨frame, parent, others, leave, wraps, kind', single, written⟩ := starts_wraps starts inner
    proceeds.emits proceeds.wellformed ends
  refine ⟨last, closed, frame, parent, others, leave, code, ?_, kind', single, written, ?_,
    proceeds.follows (opened_live starts.opens), sees_step step behind, done⟩
  · rw [same]
    exact wraps_deeper depth wraps
  · rw [proceeds.labels, starts.label]
    omega

lemma wrapped_simulates (wraps : Wraps context view start opened last closed type frame parent others enter leave)
    (frames : start.frames = before.frames) (written : frame.code = code.reverse)
    (label : last.nextLabel = before.nextLabel + blocks)
    (follows : Follows view before closed run (enter ++ (frame.holding (code ++ leave)).close)) :
    Simulates context view before closed blocks run (enter ++ (frame.holding (code ++ leave)).close) := by
  refine ⟨?_, wraps.encloses.wellformed, wraps.encloses.closed.label.trans label, follows⟩
  have emits := wraps.encloses.emits
  rw [written, ← reverse_append, frames] at emits
  exact emits

lemma popped_frames (popped : before.pop = .ok (condition, start)) :
    start.frames = before.frames ∧ start.nextLabel = before.nextLabel := by
  obtain ⟨_, _, _, _, _, same⟩ := pop_ok popped
  rw [same]
  exact ⟨rfl, rfl⟩

lemma condition_starts (opens : opening.op? = some .ifElse) (live : before.Live)
    (wellformed : Wellformed context before) (step : stepBody context before opening = .ok opened) :
    ∃ condition start, before.pop = .ok (condition, start) ∧ ∃ type fresh enter, opening.blockType? context.scope = some type ∧
        Starts context view start opened (.conditional condition.operand) type fresh enter := by
  obtain ⟨next, compiled, same⟩ := step_operates opens nofun (.inl live) step
  obtain ⟨⟨condition, start⟩, popped, entering⟩ := bind_ok compiled
  have reached : start.Live := by
    obtain ⟨frame, outer, frames, reached⟩ := live
    exact ⟨frame, outer, (popped_frames popped).1.trans frames, reached⟩
  rw [same]
  exact ⟨condition, start, popped, enter_starts view _ _ (popped_wellformed wellformed popped) reached nofun entering⟩

/-- As `Compiles`, where the words are reached. -/
def Reached (context : BodyContext) {meaning : Semantics ε S V} (view : View meaning) (code : Code)
    (words : List (Option Instruction)) : Prop :=
  ∀ before after, before.Live → Wellformed context before →
    Marks context.targeted (before.frames.map (·.label)) before.nextLabel code →
    code.Valid context.unit → Sees context view before words → steps context before words = .ok after →
    ∃ emitted, Proceeds context view before after code.blocks (code.run meaning context.unit view.rounds) emitted

lemma compiles_reached {code : Code} (spelled : Spells code words)
    (reached : Reached context view code words) : Compiles context view code words := by
  intro before after wellformed marks valid sees done
  by_cases live : before.Live
  · exact reached before after live wellformed marks valid sees done
  · exact ⟨[], dead_proceeds spelled wellformed live done⟩

lemma mark_compiles (follow : Compiles context view rest words) : Reached context view (.mark rest) (none :: words) := by
  intro before after live wellformed marks valid sees done
  have shows : view.Shows before.stack := sees [] words before rfl rfl
  have observed := sees_behind before.observe [none] rfl sees
  obtain ⟨emitted, proceeds⟩ := compiles_behind (observe_simulates wellformed live shows) follow marks valid observed done
  rw [zero_add] at proceeds
  exact ⟨emitted, proceeds⟩

lemma plain_compiles (single : ∀ op ∈ instruction.op?, op ∉ [Op.block, .loop, .ifElse, .elseArm, .endBlock])
    (follow : Compiles context view rest words) : Reached context view (.plain instruction rest) (some instruction :: words) := by
  intro before after live wellformed marks valid sees done
  obtain ⟨middle, step, done⟩ := steps_cons done
  have behind := sees_step step sees
  obtain ⟨next, compiled, same⟩ := step_compiles (.inl live) step
  obtain ⟨effect, known, code, simulates⟩ := instruction_simulates view wellformed live single marks.1 valid.1 compiled
  have deeper := simulates_deeper (max next.maxDepth next.frames.length) simulates
  rw [← same] at deeper
  obtain ⟨emitted, proceeds⟩ := compiles_behind deeper follow marks.2 valid.2 behind done
  have run : (Code.plain instruction rest).run meaning context.unit view.rounds
      = fun config => (effect.run meaning context.unit config).andThen (rest.run meaning context.unit view.rounds) := by
    funext config
    rw [Code.run, known]
  rw [zero_add] at proceeds
  rw [run]
  exact ⟨emitted, proceeds⟩

section OneArm

variable {opening closing : Instruction} {body rest : Code} {inner words : List (Option Instruction)}
  (closes : closing.op? = some .endBlock) (inside : Compiles context view body inner) (follow : Compiles context view rest words)

include closes inside follow

lemma arm_compiles (live : before.Live) (wellformed : Wellformed context before)
    (sees : Sees context view before (some opening :: (inner ++ some closing :: words)))
    (done : steps context before (some opening :: (inner ++ some closing :: words)) = .ok after)
    (kind : FrameKind) (inner : kind ≠ .function) (opens : opening.op? = some op) (other : op ≠ .call)
    (enters : compileOp context before opening op = before.materializeAll.enter context kind opening)
    (marks : Marks context.targeted (before.frames.map (·.label)) before.nextLabel
      (.block opening body rest)) (valid : (Code.block opening body rest).Valid context.unit)
    (arm : ∀ {opened last closed type frame parent others enter leave},
      Wraps context view before opened last closed type frame parent others enter leave → ∀ code,
      Follows view opened last (body.run meaning context.unit view.rounds) code →
      opening.blockType? context.scope = some type → frame.kind = kind →
      Follows view before closed run (enter ++ (frame.holding (code ++ leave)).close)) :
    ∃ emitted, Proceeds context view before after (body.blocks + 1 + rest.blocks)
      (fun config => (run config).andThen (rest.run meaning context.unit view.rounds)) emitted := by
  obtain ⟨opened, step, done⟩ := steps_cons done
  have entered := sees_step step sees
  obtain ⟨next, compiled, same⟩ := step_operates opens other (.inl live) step
  obtain ⟨type, fresh, enter, known, starts⟩ := enter_starts view kind
    (max next.maxDepth next.frames.length) wellformed live inner (enters ▸ compiled)
  rw [← same] at starts
  obtain ⟨last, closed, frame, parent, others, leave, code, wraps, kind, _, written, label, follows, behind,
    done⟩ := arm_wraps starts inner closes inside marks.1 valid.1 entered done
  have simulates := wrapped_simulates wraps rfl written label (arm wraps code follows known kind)
  refine compiles_behind simulates follow ?_ valid.2 behind done
  rw [add_comm body.blocks, ← add_assoc]
  exact marks.2

lemma guarded_compiles (opens : opening.op? = some .ifElse) : Reached context view (.guarded opening body rest)
      (some opening :: (inner ++ some closing :: words)) := by
  intro before after live wellformed marks valid sees done
  obtain ⟨opened, step, done⟩ := steps_cons done
  have entered := sees_step step sees
  obtain ⟨condition, start, popped, type, fresh, enter, known, starts⟩ := condition_starts opens live wellformed step
  obtain ⟨frames, next⟩ := popped_frames popped
  rw [← frames, ← next] at marks
  obtain ⟨last, closed, frame, parent, others, leave, code, wraps, kind, single, written, label, follows,
    behind, done⟩ := arm_wraps starts nofun closes inside marks.1 valid.2.1 entered done
  rw [next] at label
  have simulates := wrapped_simulates wraps frames written label
    (guarded_follows wraps _ code follows known popped wellformed.settled kind single (valid.1 type known))
  refine compiles_behind simulates follow ?_ valid.2.2 behind done
  rw [add_comm body.blocks, ← add_assoc, ← frames, ← next]
  exact marks.2

end OneArm

variable {middle : Instruction}

variable {first second : Code}

lemma arm_divides (starts : Starts context view start opened kind type fresh enter) (divides : middle.op? = some .elseArm)
    {inside : List (Option Instruction)} (compiles : Compiles context view first inside)
    (marksFirst : Marks context.targeted (start.nextLabel :: start.frames.map (·.label)) (start.nextLabel + 1) first)
    (marksSecond : Marks context.targeted (start.nextLabel :: start.frames.map (·.label))
      (start.nextLabel + 1 + first.blocks) second) (valid : first.Valid context.unit)
    (sees : Sees context view opened (inside ++ some middle :: words))
    (done : steps context opened (inside ++ some middle :: words) = .ok after) : ∃ last next depth code,
      Proceeds context view opened last first.blocks (first.run meaning context.unit view.rounds) code ∧ last.elseArm = .ok next ∧
      (∃ frame, Opened context start.frames { next with maxDepth := depth } frame enter) ∧
      Marks context.targeted (next.frames.map (·.label)) next.nextLabel second ∧
      next.nextLabel = start.nextLabel + (first.blocks + 1) ∧
      Sees context view { next with maxDepth := depth } words ∧
      steps context { next with maxDepth := depth } words = .ok after := by
  obtain ⟨last, within, done⟩ := steps_append done
  obtain ⟨code, proceeds⟩ := compiles opened last starts.opens.wellformed (opened_marks starts marksFirst) valid
    (sees_before sees) within
  have behind := sees_behind last inside within sees
  obtain ⟨divided, step, done⟩ := steps_cons done
  have seen := sees_step step behind
  have reached : skip? last middle = none := by
    simp only [skip?, divides, proceeds.wellformed.skipped, lt_irrefl, if_false]
  obtain ⟨next, ends, same⟩ := step_operates divides nofun (.inr reached) step
  obtain ⟨frame, outer, leave, _, grows, opens, _, label, _⟩ := else_divides view starts.opens
    proceeds.emits proceeds.wellformed ends
  have next' : next.nextLabel = start.nextLabel + (first.blocks + 1) := by
    rw [label, proceeds.labels, starts.label]
    omega
  have own : (frame.divided (code ++ leave)).label = start.nextLabel := by
    show frame.label = start.nextLabel
    rw [grows.label, starts.made]
    rfl
  subst same
  refine ⟨last, next, _, code, proceeds, ends, ⟨_, opened_deeper _ opens⟩, ?_, next', seen, done⟩
  rw [opened_labels opens, own, next', add_comm first.blocks, ← add_assoc]
  exact marksSecond

lemma conditional_compiles (opens : opening.op? = some .ifElse)
    (divides : middle.op? = some .elseArm) (closes : closing.op? = some .endBlock)
    (insideFirst : Compiles context view first inner)
    (insideSecond : Compiles context view second others) (follow : Compiles context view rest words) :
    Reached context view (.conditional opening first second rest)
      (some opening :: (inner ++ some middle :: (others ++ some closing :: words))) := by
  intro before after live wellformed marks valid sees done
  obtain ⟨opened, step, done⟩ := steps_cons done
  have entered := sees_step step sees
  obtain ⟨condition, start, popped, type, fresh, enter, known, starts⟩ := condition_starts opens live wellformed step
  obtain ⟨frames, next⟩ := popped_frames popped
  rw [← frames, ← next] at marks
  obtain ⟨marksFirst, marksSecond, marksRest⟩ := marks
  obtain ⟨validFirst, validSecond, validRest⟩ := valid
  obtain ⟨left, divided, depth, codeFirst, proceedsFirst, divide, ⟨open', opensSecond⟩, marksSecond, label,
    entered, done⟩ := arm_divides starts divides insideFirst marksFirst marksSecond validFirst entered done
  obtain ⟨right, within, done⟩ := steps_append done
  obtain ⟨codeSecond, proceedsSecond⟩ := insideSecond _ right opensSecond.wellformed marksSecond validSecond
    (sees_before entered) within
  have behind := sees_behind right others within entered
  obtain ⟨closed, step, done⟩ := steps_cons done
  have behind := sees_step step behind
  obtain ⟨ended, deep, ends, same⟩ := closing_step closes proceedsSecond.wellformed step
  obtain ⟨leftFrame, frame, parent, outer, upper, leave, more, splits, kind, written, arms⟩ := starts_splits
    starts nofun proceedsFirst.emits proceedsFirst.wellformed divide depth proceedsSecond.emits
    proceedsSecond.wellformed ends
  have follows := conditional_follows splits known popped wellformed.settled kind (by rw [arms]; rfl)
    (proceedsFirst.follows (opened_live starts.opens)) (proceedsSecond.follows (opened_live opensSecond))
  have wraps := splits.wraps
  have emits := wraps.encloses.emits
  have written' : Frame.close { frame with code := more.reverse ++ frame.code }
      = (frame.choosing leftFrame (codeFirst ++ leave) (codeSecond ++ more)).close := by
    rw [written, ← reverse_append, Frame.choosing, ← arms]
  rw [written', frames] at emits
  have labels : ended.nextLabel = before.nextLabel + (first.blocks + second.blocks + 1) := by
    have counted : right.nextLabel = divided.nextLabel + second.blocks := proceedsSecond.labels
    rw [wraps.encloses.closed.label, counted, label, next]
    omega
  have deeper := simulates_deeper deep ⟨emits, wraps.encloses.wellformed, labels, follows⟩
  rw [← same] at deeper
  refine compiles_behind deeper follow ?_ validRest behind done
  have counted : before.nextLabel + (first.blocks + second.blocks + 1)
      = start.nextLabel + 1 + first.blocks + second.blocks := by omega
  rw [counted, ← frames]
  exact marksRest

lemma code_compiles (positive : 0 < view.rounds) {code : Code} (spelled : Spells code words) :
    Compiles context view code words := by
  have whole := spelled
  induction spelled with
  | done =>
    intro before after wellformed _ _ _ done
    cases done
    refine ⟨[], nested_emits wellformed.nested, wellformed, rfl, ?_⟩
    intro live machine
    exact .next _ _ ⟨live, rfl⟩
  | mark rest words follow ih => exact compiles_reached whole (mark_compiles (ih follow))
  | plain instruction rest words single follow ih =>
    exact compiles_reached whole (plain_compiles single (ih follow))
  | block opening closing body rest inner words opens closes inside follow ihBody ihRest =>
    apply compiles_reached whole
    intro before after live wellformed marks valid sees done
    exact arm_compiles closes (ihBody inside) (ihRest follow) live wellformed sees done .block nofun opens
      nofun rfl marks valid fun wraps code follows => block_follows wraps _ code follows
  | loop opening closing body rest inner words opens closes inside follow ihBody ihRest =>
    apply compiles_reached whole
    intro before after live wellformed marks valid sees done
    exact arm_compiles closes (ihBody inside) (ihRest follow) live wellformed sees done .loop nofun opens
      nofun rfl marks valid fun wraps code follows known kind =>
        loop_follows wraps _ code follows known kind positive
  | guarded opening closing body rest inner words opens closes inside follow ihBody ihRest =>
    exact compiles_reached whole (guarded_compiles closes (ihBody inside) (ihRest follow) opens)
  | conditional opening middle closing first second rest inner others words opens divides closes inside
      other follow ihFirst ihSecond ihRest =>
    exact compiles_reached whole (conditional_compiles opens divides closes (ihFirst inside) (ihSecond other) (ihRest follow))

end Compiling

end WasmLua.Compile
