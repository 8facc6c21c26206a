import WasmLua.Proofs.Body.Instructions

namespace WasmLua.Compile

open Nat
open ValueStack BodyState Target List
open Target (Block Exit Flag Machine Operand Stmt)
open Wasm (Config Instruction Result Semantics)

variable {ε S V : Type}

def Frame.Lands (frame : Frame) (config : Config S V) (machine : Machine S V) : Prop := frame.continues = true ∧
    config = ⟨held machine (frame.height + frame.results.length), machine.locals, machine.store⟩

variable {label depth : Nat} {frame target parent fresh : Frame} {outer others around : List Frame}
  {flag : Flag} {result : Result ε S V} {output : EStateM.Result ε (Machine S V) (Exit (List V) × Flag)}
  {meaning : Semantics ε S V} {view : View meaning} {code : List Stmt} {machine : Machine S V}
  {context : BodyContext} {inner after opened : BodyState} {instruction : Instruction}

section Watching

variable {meaning : Semantics ε S V} (view : View meaning) (frame : Frame) (machine : Machine S V)

def outside (output : EStateM.Result ε (Machine S V) (Exit (List V) × Flag)) : EStateM.Result ε (Machine S V) (Exit (List V) × Flag) :=
  match output with
  | .ok (exit, flag) machine => .ok (exit.outside, flag) machine
  | .error error machine => .error error machine

lemma watch_once : view.watch (.once (.ofList code) :: rest) flag machine
      = follow (outside (view.watch code flag machine)) (view.watch rest) := by
  unfold View.watch outside
  rw [watch_cons, Target.Stmt.watch]
  cases (Block.ofList code).watch view.seen view.rounds flag machine <;> rfl

lemma watch_flag_is : view.watch [.choose (.arm (.flagIs label) (.ofList code) arms)] flag machine
      = if flag = some label then view.watch code flag machine
        else arms.watch view.seen view.rounds flag machine := by
  have tested : (Target.Condition.flagIs label).holds (view.seen flag) flag machine = .ok (flag == some label) machine := rfl
  rw [View.watch, watch_single, Target.Stmt.watch, Target.Arms.watch, tested]
  by_cases same : flag = some label
  · rw [if_pos same, beq_iff_eq.mpr same]
    rfl
  · rw [if_neg same, beq_eq_false_iff_ne.mpr same]

lemma after_block_clear : view.watch frame.afterBlock none machine = .ok (.next, none) machine := by
  unfold Frame.afterBlock
  split <;> rfl

lemma after_block_own (flagged : frame.flagSelf = true) :
    view.watch frame.afterBlock (some frame.label) machine = .ok (.next, none) machine := by
  unfold Frame.afterBlock
  rw [flagged]
  cases frame.escapes with
  | false => rfl
  | true =>
    show view.watch [.choose (.arm (.flagIs frame.label) _ _)] _ machine = _
    rw [watch_flag_is, if_pos rfl]
    rfl

lemma after_block_other (different : label ≠ frame.label) (escapes : frame.escapes = true) :
    view.watch frame.afterBlock (some label) machine = .ok (.left, some label) machine := by
  unfold Frame.afterBlock
  rw [escapes]
  cases frame.flagSelf with
  | false => rfl
  | true =>
    show view.watch [.choose (.arm (.flagIs frame.label) _ _)] _ machine = _
    rw [watch_flag_is, if_neg (by simpa using different)]
    rfl

lemma again_own (flagged : frame.flagSelf = true) :
    view.watch [frame.again] (some frame.label) machine = .ok (.next, none) machine := by
  rw [Frame.again, if_pos flagged, watch_flag_is, if_pos rfl]
  rfl

lemma again_other (different : label ≠ frame.label) :
    view.watch [frame.again] (some label) machine = .ok (.left, some label) machine := by
  unfold Frame.again
  split
  · rw [watch_flag_is, if_neg (by simpa using different)]
    rfl
  · rfl

end Watching

lemma signals_outer (signals : Signals (frame :: outer) (depth + 1) target flag) : Signals outer depth target flag := by
  cases flag with
  | none =>
    obtain ⟨straight, branched, plain⟩ := signals
    exact ⟨straight, branched, fun other member => plain other (mem_cons_of_mem _ member)⟩
  | some label =>
    obtain ⟨named, flagged, branched, escapes⟩ := signals
    exact ⟨named, flagged, branched, fun other member => escapes other (mem_cons_of_mem _ member)⟩

lemma signals_past (lowered : frame.lowered = true) (signals : Signals (frame :: outer) (depth + 1) target flag) :
    flag = some target.label ∧ frame.escapes = true := by
  have first : frame ∈ (frame :: outer).take (depth + 1) := mem_cons_self
  cases flag with
  | none =>
    obtain ⟨_, _, plain⟩ := signals
    rw [plain frame first] at lowered
    cases lowered
  | some label =>
    obtain ⟨named, _, _, escapes⟩ := signals
    exact ⟨congrArg some named, escapes frame first lowered⟩

lemma inline_matches (arity height : Nat)
    (inner : frame.kind ≠ .function) (plain : frame.lowered = false)
    (ends : Matches (frame :: outer) Arrives result output) : (∀ config, result ≠ .branch 0 config) ∧
      Matches outer Arrives (result.enclosed arity height) output := by
  cases ends with
  | next config machine arrives => exact ⟨nofun, .next config machine arrives⟩
  | branch depth config machine flag target found kind lowered signals enough landed =>
    cases depth with
    | zero =>
      cases found
      rw [plain] at lowered
      cases lowered
    | succ depth =>
      exact ⟨nofun, .branch depth config machine flag target found kind lowered (signals_outer signals) enough landed⟩
  | outermost depth config machine target found kind enough store =>
    cases depth with
    | zero =>
      cases found
      exact absurd kind inner
    | succ depth => exact ⟨nofun, .outermost depth config machine target found kind enough store⟩
  | returned values machine => exact ⟨nofun, .returned values machine⟩
  | trapped error machine => exact ⟨nofun, .trapped error machine⟩
  | unfinished machine flag => exact ⟨nofun, .unfinished machine flag⟩

lemma Frame.branched_continues (frame : Frame) (inner : frame.kind ≠ .function)
    (straight : frame.isLoop = false) (branched : frame.branched = true) : frame.continues = true := by
  unfold Frame.continues
  unfold Frame.isLoop at straight
  cases kind : frame.kind with
  | function => exact absurd kind inner
  | loop =>
    rw [kind] at straight
    cases straight
  | block | conditional condition => simp [branched]

lemma breakable_matches (view : View meaning) (code : List Stmt) (result : Result ε S V)
    (machine : Machine S V) (inner : frame.kind ≠ .function) (straight : frame.isLoop = false)
    (distinct : ∀ other ∈ outer, other.label ≠ frame.label)
    (ends : Matches (frame :: outer) frame.Lands result (view.watch code none machine)) :
    Matches outer frame.Lands (result.enclosed frame.results.length frame.height)
      (view.watch (frame.breakable code) none machine) := by
  unfold Frame.breakable
  by_cases lowered : frame.lowered = true
  · rw [if_pos lowered, watch_once]
    generalize view.watch code none machine = output at ends ⊢
    cases ends with
    | next config machine arrives =>
      show Matches outer frame.Lands _ (view.watch frame.afterBlock none machine)
      rw [after_block_clear]
      exact .next config machine arrives
    | branch depth config machine flag target found kind _ signals enough landed =>
      show Matches outer frame.Lands _ (view.watch frame.afterBlock flag machine)
      cases depth with
      | zero =>
        cases found
        simp only [Frame.arity, straight, Bool.false_eq_true, if_false] at enough landed
        have branched : frame.branched = true := by
          cases flag with
          | none => exact signals.2.1
          | some label => exact signals.2.2.1 straight
        have cleared : view.watch frame.afterBlock flag machine = .ok (.next, none) machine := by
          cases flag with
          | none => exact after_block_clear view frame machine
          | some label =>
            rw [signals.1]
            exact after_block_own view frame machine signals.2.1
        rw [cleared, Result.enclosed, if_neg (not_lt.mpr enough)]
        exact .next _ machine ⟨frame.branched_continues inner straight branched, landed⟩
      | succ depth =>
        obtain ⟨named, escapes⟩ := signals_past lowered signals
        have different := distinct target (mem_of_getElem? found)
        rw [named, after_block_other view frame machine different escapes, ← named]
        exact .branch depth config machine flag target found kind ‹_› (signals_outer signals) enough landed
    | outermost depth config machine target found kind enough store =>
      cases depth with
      | zero =>
        cases found
        exact absurd kind inner
      | succ depth => exact .outermost depth config machine target found kind enough store
    | returned | trapped | unfinished => constructor
  · rw [if_neg lowered]
    exact (inline_matches _ _ inner (by simpa using lowered) ends).2

def Frame.entered (frame : Frame) (machine : Machine S V) : Config S V :=
  ⟨held machine (frame.height + frame.params.length), machine.locals, machine.store⟩

lemma loop_matches (body : Config S V → Result ε S V) (kind : frame.kind = .loop)
    (lowered : frame.lowered = true) (distinct : ∀ other ∈ outer, other.label ≠ frame.label)
    (ends : ∀ machine, Matches (frame :: outer) frame.Lands (body (frame.entered machine))
      (view.watch code none machine)) (rounds : Nat) (machine : Machine S V) : Matches outer frame.Lands
      (Wasm.repeated body frame.params.length frame.height rounds (frame.entered machine)) (follow
        (watchRounds (view.watch [.once (.ofList code), frame.again]) rounds none machine)
        (view.watch (if frame.escapes then [Frame.passOn] else []))) := by
  have arity : frame.arity = frame.params.length := by simp [Frame.arity, Frame.isLoop, kind]
  induction rounds generalizing machine with
  | zero => exact .unfinished machine none
  | succ rounds ih =>
    have round := ends machine
    rw [Wasm.repeated, watchRounds, watch_once]
    generalize body (frame.entered machine) = result at round ⊢
    generalize view.watch code none machine = output at round ⊢
    cases round with
    | next config machine arrives =>
      have left : follow (outside (.ok (.next, none) machine)) (view.watch [frame.again]) = .ok (.left, none) machine := by
        unfold Frame.again
        split <;> rfl
      rw [left]
      show Matches outer frame.Lands _ (view.watch _ none machine)
      have clear : view.watch (if frame.escapes then [Frame.passOn] else []) none machine = .ok (.next, none) machine := by
        split <;> rfl
      rw [clear]
      exact .next config machine arrives
    | branch depth config machine flag target found inner canLeave signals enough landed =>
      cases depth with
      | zero =>
        -- The flag of a branch to the loop is always set.
        cases found
        cases flag with
        | none =>
          have straight := signals.1
          rw [Frame.isLoop, kind] at straight
          cases straight
        | some label =>
          rw [signals.1]
          have next : follow (outside (.ok (.left, some frame.label) machine))
              (view.watch [frame.again]) = .ok (.next, none) machine :=
            again_own view frame machine signals.2.1
          rw [next]
          rw [arity] at enough landed
          show Matches outer frame.Lands (if config.stack.length < _ then _ else _) _
          rw [if_neg (not_lt.mpr enough), landed]
          exact ih machine
      | succ depth =>
        obtain ⟨named, escapes⟩ := signals_past lowered signals
        have different := distinct target (mem_of_getElem? found)
        rw [named]
        have left : follow (outside (.ok (.left, some target.label) machine))
            (view.watch [frame.again]) = .ok (.left, some target.label) machine :=
          again_other view frame machine different
        rw [left]
        show Matches outer frame.Lands _ (view.watch _ (some target.label) machine)
        rw [if_pos escapes]
        show Matches _ _ _ (.ok (.left, some target.label) machine)
        rw [← named]
        exact .branch depth config machine flag target found inner canLeave (signals_outer signals) enough landed
    | outermost depth config machine target found inner enough store =>
      cases depth with
      | zero =>
        cases found
        rw [kind] at inner
        cases inner
      | succ depth => exact .outermost depth config machine target found inner enough store
    | returned | trapped | unfinished => constructor

section Closing

variable {meaning : Semantics ε S V} {view : View meaning} (frame : Frame) {outer : List Frame}
  (distinct : ∀ other ∈ outer, other.label ≠ frame.label) (run : Config S V → Result ε S V)
  (ends : ∀ machine, Matches (frame :: outer) frame.Lands (run (frame.entered machine))
    (view.watch frame.code.reverse none machine)) (machine : Machine S V)

include distinct ends

lemma block_closes (kind : frame.kind = .block) : Matches outer frame.Lands
      ((run (frame.entered machine)).enclosed frame.results.length frame.height) (view.watch frame.close none machine) := by
  simp only [Frame.close, kind]
  exact breakable_matches view _ _ machine (by simp [kind]) (by simp [Frame.isLoop, kind]) distinct (ends machine)

lemma loop_closes (kind : frame.kind = .loop) (positive : 0 < view.rounds) : Matches outer frame.Lands
      (Wasm.repeated run frame.params.length frame.height view.rounds (frame.entered machine))
      (view.watch frame.close none machine) := by
  simp only [Frame.close, kind]
  by_cases lowered : frame.lowered = true
  · rw [if_pos lowered, View.watch, watch_cons, Target.Stmt.watch]
    exact loop_matches run kind lowered distinct ends view.rounds machine
  · -- Without a branch to it the body of a loop runs once.
    rw [if_neg lowered]
    have inner : frame.kind ≠ .function := by simp [kind]
    obtain ⟨forward, matched⟩ := inline_matches frame.params.length frame.height inner (by simpa using lowered) (ends machine)
    have once : Wasm.repeated run frame.params.length frame.height view.rounds (frame.entered machine)
        = (run (frame.entered machine)).enclosed frame.params.length frame.height := by
      obtain ⟨rounds, same⟩ := Nat.exists_eq_add_of_lt positive
      rw [same, Nat.zero_add, Wasm.repeated]
      generalize run (frame.entered machine) = result at forward ⊢
      cases result with
      | branch depth config =>
        cases depth with
        | zero => exact absurd rfl (forward config)
        | succ depth => rfl
      | next | returned | trapped | unfinished | stuck => rfl
    rw [once]
    exact matched

variable {condition : Operand} (kind : frame.kind = .conditional condition)

include kind

lemma guarded_closes (single : frame.thenArm = none) (same : frame.params.length = frame.results.length) :
    Matches outer frame.Lands (if meaning.word (machine.read meaning condition) = 0 then .next (frame.entered machine)
        else (run (frame.entered machine)).enclosed frame.results.length frame.height)
      (view.watch frame.close none machine) := by
  have continues : frame.continues = true := by simp [Frame.continues, kind, single]
  simp only [Frame.close, kind, single]
  have chosen := breakable_matches view [.choose (.arm (.value (.nonzero condition)) frame.body .none)]
    (if meaning.word (machine.read meaning condition) = 0 then .next (frame.entered machine)
      else run (frame.entered machine)) machine (by simp [kind]) (by simp [Frame.isLoop, kind]) distinct
  rw [Frame.body, View.watch_test, Machine.holds] at chosen
  by_cases zero : meaning.word (machine.read meaning condition) = 0
  · rw [if_pos zero, if_neg (by simp [zero])] at chosen
    rw [if_pos zero]
    apply chosen
    refine .next _ machine ⟨continues, ?_⟩
    rw [← same]
    rfl
  · rw [if_neg zero, if_pos (by simp [zero])] at chosen
    rw [if_neg zero]
    exact chosen (ends machine)

lemma conditional_closes (arms : frame.thenArm = some (.ofList first, reachable)) (other : Config S V → Result ε S V)
    (starts : ∀ machine, Matches (frame :: outer) frame.Lands (other (frame.entered machine))
      (view.watch first none machine)) : Matches outer frame.Lands
      ((if meaning.word (machine.read meaning condition) = 0 then run (frame.entered machine)
        else other (frame.entered machine)).enclosed frame.results.length frame.height)
      (view.watch frame.close none machine) := by
  simp only [Frame.close, kind, arms]
  apply breakable_matches view _ _ machine (by simp [kind]) (by simp [Frame.isLoop, kind]) distinct
  rw [View.watch_test, Machine.holds]
  by_cases zero : meaning.word (machine.read meaning condition) = 0
  · rw [if_pos zero, if_neg (by simp [zero])]
    exact ends machine
  · rw [if_neg zero, if_pos (by simp [zero])]
    exact starts machine

end Closing

lemma matches_leads {frames : List Frame} {Arrives Reaches : Config S V → Machine S V → Prop}
    {more : List Stmt} (leads : ∀ config middle, Arrives config middle → ∃ last, view.Leads more middle last ∧ Reaches config last)
    (ends : Matches frames Arrives result (view.watch code none machine)) :
    Matches frames Reaches result (view.watch (code ++ more) none machine) := by
  rw [view.watch_append]
  generalize view.watch code none machine = output at ends ⊢
  cases ends with
  | next config middle arrives =>
    obtain ⟨last, led, reached⟩ := leads config middle arrives
    show Matches frames Reaches _ (view.watch more none middle)
    rw [led]
    exact .next config last reached
  | branch depth config machine flag target found inner lowered signals enough landed =>
    exact .branch depth config machine flag target found inner lowered signals enough landed
  | outermost depth config machine target found outer enough store =>
    exact .outermost depth config machine target found outer enough store
  | returned | trapped | unfinished => constructor

def Frame.Ready (frame : Frame) (config : Config S V) (machine : Machine S V) : Prop := frame.unreachable = false ∧
    config = ⟨held machine (frame.height + frame.results.length), machine.locals, machine.store⟩

structure ArmEnds (inner last : BodyState) (frame : Frame) (outer : List Frame) (code : List Stmt) :
    Prop where
  frames : last.frames = { frame with code := code.reverse ++ frame.code } :: outer
  label : last.nextLabel = inner.nextLabel
  skipped : last.skipped = inner.skipped
  low : frame.height ≤ last.stack.length
  settled : last.stack.Settled
  fixed : last.stack.Fixed frame.height

lemma arm_ends (view : View meaning) (frames : inner.frames = frame :: outer)
    (wellformed : Wellformed context inner)
    (done : (if frame.unreachable then pure inner else inner.endValues frame) = .ok last) :
    ∃ code, ArmEnds inner last frame outer code ∧ ∀ (before : List Stmt) (result : Result ε S V) (machine : Machine S V),
        Agrees meaning inner result (view.watch before none machine) →
        Matches inner.frames frame.Ready result (view.watch (before ++ code) none machine) := by
  have height : inner.height = frame.height := by simp only [height, frames]
  have low := wellformed_low wellformed
  have fixed := wellformed.fixed
  rw [height] at low fixed
  by_cases dead : frame.unreachable = true
  · rw [if_pos dead] at done
    cases done
    refine ⟨[], ⟨frames, rfl, rfl, low, wellformed.settled, fixed⟩, ?_⟩
    intro before result machine agrees
    rw [append_nil]
    refine matches_widens _ _ (keeps_widens (keeps_all_refl _)) ?_ agrees
    intro config machine _ arrived
    obtain ⟨first, others, opened, live⟩ := arrived.1
    rw [frames] at opened
    cases opened
    rw [dead] at live
    cases live
  · rw [if_neg dead] at done
    unfold endValues at done
    split at done
    · cases done
    · rename_i exact
      have length : inner.stack.length = frame.height + frame.results.length := by simpa using exact
      cases done
      have cleared := materialize_cleared (fun slot _ => decide (frame.height ≤ slot)) inner.stack
      have kept := materialize_fixed (fun slot _ => decide (frame.height ≤ slot)) fixed
      have size := materialize_length (fun slot _ => decide (frame.height ≤ slot)) inner.stack
      have advances := inner.materialize_advances fun slot _ => frame.height ≤ slot
      refine ⟨_, ⟨advances.frames.trans (inner.emit_frames _ frame outer frames), advances.label, advances.skipped, ?_, ?_, kept⟩, ?_⟩
      · exact le_trans low (le_of_eq size.symm)
      · exact materialize_settled _ wellformed.settled
      · intro before result machine agrees
        apply matches_leads _ agrees
        intro config middle arrived
        obtain ⟨after, leads, locals, store, _, values⟩ := materialize_leads view
          (fun slot _ => decide (frame.height ≤ slot)) wellformed.settled middle
        refine ⟨after, leads, by simpa using dead, ?_⟩
        have whole := cleared_fixed (frame.height + frame.results.length) cleared kept (by simp)
        have held := fixed_values meaning after _ whole (by omega)
        rw [arrived.2, BodyState.config, ← values, held, size, length, locals, store]

lemma trim_length (stack : ValueStack) (height : Nat) (low : height ≤ stack.length) : (stack.trim height).length = height := by
  rw [trim, length_drop]
  omega

lemma trimmed_fixed {stack : ValueStack} {height : Nat} (any : Nat) (types : List Wasm.ValueType)
    (low : height ≤ stack.length) (fixed : stack.Fixed height) : ((stack.trim height).pushed types).Fixed any :=
  pushed_fixed types (fixed_whole any (fixed_drop _ stack fixed) (le_of_eq (trim_length stack height low)))

structure Closed (inner after : BodyState) (frame parent : Frame) (others : List Frame) : Prop where
  frames : after.frames = { parent with
      code := frame.close.reverse ++ parent.code
      unreachable := !frame.continues } :: others
  label : after.nextLabel = inner.nextLabel
  skipped : after.skipped = inner.skipped
  length : after.stack.length = frame.height + frame.results.length
  settled : after.stack.Settled
  fixed : ∀ height, after.stack.Fixed height

lemma ended_bind :
    (if frame.unreachable = true then pure inner >>= rest else inner.endValues frame >>= rest)
      = (if frame.unreachable then pure inner else inner.endValues frame) >>= rest := by
  split <;> rfl

lemma end_block_closes (frames : inner.frames = frame :: parent :: others)
    (kind : frame.kind ≠ .function) (done : inner.endBlock = .ok after) :
    ∃ last, (if frame.unreachable then pure inner else inner.endValues frame) = .ok last ∧
      ∀ code, ArmEnds inner last frame (parent :: others) code →
        Closed inner after { frame with code := code.reverse ++ frame.code } parent others := by
  have plain : ¬ frame.isFunction = true := fun outermost => kind (frame.isFunction_iff.mp outermost)
  unfold endBlock at done
  rw [frames] at done
  simp only [if_neg plain] at done
  rw [ended_bind] at done
  obtain ⟨last, ended, done⟩ := bind_ok done
  refine ⟨last, ended, ?_⟩
  intro code ends
  rw [ends.frames] at done
  cases done
  obtain ⟨stack, opened, label, skipped⟩ := push_all frame.results
    (emit { last with frames := parent :: others, stack := last.stack.trim frame.height }
      (Frame.close { frame with code := code.reverse ++ frame.code }))
  rw [emit_frames _ _ parent others rfl] at opened
  rw [emit_stack] at stack
  rw [emit_label] at label
  rw [emit_skipped] at skipped
  have low := ends.low
  have settled := settled_drop (last.stack.length - frame.height) _ ends.settled
  unfold modifyTop
  simp only [opened]
  refine ⟨rfl, label.trans ends.label, skipped.trans ends.skipped, ?_, ?_, ?_⟩
  · simp only [stack, pushed_length]
    rw [trim_length last.stack frame.height low]
  · simp only [stack]
    exact pushed_settled _ settled
  · intro height
    simp only [stack]
    exact trimmed_fixed height frame.results low ends.fixed

lemma closed_wellformed (frames : inner.frames = frame :: parent :: others)
    (wellformed : Wellformed context inner) (final : Frame) (same : frame.Widens final)
    (closed : Closed inner after final parent others) : Wellformed context after := by
  have nested := wellformed.nested
  rw [frames] at nested
  cases nested with
  | inside _ _ _ _ kind positive label low lowered around =>
    refine ⟨?_, closed.settled, closed.fixed _, closed.skipped.trans wellformed.skipped⟩
    have within := (nested_bounds around parent mem_cons_self).2
    rw [closed.frames, closed.label]
    apply nested_above context frame.height frame.label _ _ (le_of_lt label)
    · apply nested_widens (parent :: others) _ _ around
      exact .cons ⟨rfl, rfl, rfl, rfl, rfl, rfl, id, id, id⟩ (keeps_widens (keeps_all_refl _))
    · intro first here
      cases here
      rw [closed.length, same.height]
      exact le_add_right_of_le within

lemma closed_agrees (meaning : Semantics ε S V) (closed : Closed inner after frame parent others)
    (ends : Matches (parent :: others) frame.Lands result output) : Agrees meaning after result output := by
  refine matches_widens after.frames frame.Lands ?_ ?_ ends
  · rw [closed.frames]
    exact .cons ⟨rfl, rfl, rfl, rfl, rfl, rfl, id, id, id⟩ (keeps_widens (keeps_all_refl _))
  · intro config machine _ landed
    obtain ⟨continues, same⟩ := landed
    refine ⟨⟨_, others, closed.frames, by simp [continues]⟩, ?_⟩
    rw [same, BodyState.config, fixed_values meaning machine _ (closed.fixed _) (le_refl _), closed.length]

structure Opened (context : BodyContext) (around : List Frame) (opened : BodyState) (frame : Frame)
    (code : List Stmt) : Prop where
  frames : ∃ outer, opened.frames = frame :: outer ∧ Emits around outer code
  written : frame.code = []
  reached : frame.unreachable = false
  wellformed : Wellformed context opened
  length : opened.stack.length = frame.height + frame.params.length
  fixed : ∀ height, opened.stack.Fixed height

lemma opened_config (meaning : Semantics ε S V) (opens : Opened context around opened frame code) :
    opened.config meaning machine = frame.entered machine := by
  rw [BodyState.config, fixed_values meaning machine _ (opens.fixed _) (le_refl _), opens.length]
  rfl

lemma enter_ok {state : BodyState} {kind : FrameKind} (done : state.enter context kind instruction = .ok after) :
    ∃ type, instruction.blockType? context.scope = some type ∧ type.params.length + state.height ≤ state.stack.length ∧
      after = { state with
        frames := .opening kind state.nextLabel (state.stack.length - type.params.length) type
          (context.targeted.contains state.nextLabel) :: state.frames
        nextLabel := state.nextLabel + 1 } := by
  unfold enter at done
  split at done
  · cases done
  · rename_i type known
    split at done
    · cases done
    · rename_i enough
      cases done
      exact ⟨type, known, Nat.le_of_not_lt enough, rfl⟩

lemma enter_opens (view : View meaning) {before : BodyState} {kind : FrameKind}
    (wellformed : Wellformed context before) (live : before.Live) (inner : kind ≠ .function)
    (done : before.materializeAll.enter context kind instruction = .ok opened) :
    ∃ type code, instruction.blockType? context.scope = some type ∧ type.params.length ≤ before.stack.length ∧
      Opened context before.frames opened (.opening kind before.nextLabel
        (before.stack.length - type.params.length) type (context.targeted.contains before.nextLabel)) code ∧
      opened.nextLabel = before.nextLabel + 1 ∧
      ∀ machine : Machine S V, ∃ last, view.Leads code machine last ∧ last.locals = machine.locals ∧
        (∀ slot, before.stack.length ≤ slot → last.slots slot = machine.slots slot) ∧
        opened.config meaning last = before.config meaning machine := by
  have advances := before.materialize_advances fun _ _ => true
  have size : before.materializeAll.stack.length = before.stack.length := materialize_length (fun _ _ => true) before.stack
  have settled := materialize_settled (fun _ _ => true) wellformed.settled
  have kept := materialize_fixed (fun _ _ => true) wellformed.fixed
  have fixed : ∀ height, before.materializeAll.stack.Fixed height := fun height =>
    cleared_fixed height (materialize_cleared _ _) kept fun _ _ _ => rfl
  have ready := advances_wellformed before.materializeAll wellformed live advances
    (le_trans (wellformed_low wellformed) (le_of_eq size.symm)) settled kept
  have emits := advances_emits live advances
  obtain ⟨parent, outer, top, _⟩ := live
  have frames := advances.frames.trans (before.emit_frames _ parent outer top)
  have label : before.materializeAll.nextLabel = before.nextLabel := advances.label
  obtain ⟨type, known, enough, same⟩ := enter_ok done
  rw [label, size] at same
  rw [size] at enough
  subst same
  have height : before.materializeAll.height = parent.height := by
    unfold height
    rw [show before.materializeAll.frames = _ from frames]
  rw [height] at enough
  refine ⟨type, _, known, by omega, ⟨⟨_, rfl, emits⟩, rfl, rfl, ?_, ?_, fixed⟩, rfl, ?_⟩
  · refine ⟨.inside _ _ _ _ inner ?_ (lt_succ_self _) ?_ rfl ?_, settled, fixed _, ready.skipped⟩
    · exact lt_of_le_of_lt (zero_le _) (nested_bounds wellformed.nested parent (top ▸ mem_cons_self)).1
    · show before.stack.length - type.params.length ≤ before.materializeAll.stack.length
      omega
    · have nested := ready.nested
      rw [label] at nested
      apply nested_above context _ _ nested _ (le_refl _)
      intro first here
      rw [show before.materializeAll.frames = _ from frames] at here
      cases here
      show parent.height ≤ before.stack.length - type.params.length
      omega
  · show before.materializeAll.stack.length = before.stack.length - type.params.length + type.params.length
    omega
  · intro machine
    obtain ⟨last, leads, locals, store, slots, values⟩ := materialize_leads view (fun _ _ => true) wellformed.settled machine
    refine ⟨last, leads, locals, slots, ?_⟩
    show (⟨ValueStack.values meaning last (before.stack.materialize fun _ _ => true).2, last.locals,
      last.store⟩ : Config S V) = before.config meaning machine
    rw [values, locals, store]
    rfl

lemma emits_keeps (emits : Emits first second code)
    (keeps : List.Forall₂ Frame.Keeps second third) : Emits first third code := by
  cases emits with
  | intro frame after outer others _ grows written kept =>
    cases keeps with
    | cons here rest =>
      refine .intro frame _ outer _ code (Frame.grows_trans grows here.toGrows) ?_ (keeps_all_trans _ kept rest)
      rw [here.code, written]

/-- A block from the state before it to the state behind it, its frame as at the end of its last
arm. -/
structure Encloses (context : BodyContext) (around : List Frame) (inner after : BodyState)
    (frame parent : Frame) (others : List Frame) (enter leave : List Stmt) : Prop where
  frames : inner.frames = frame :: parent :: others
  distinct : ∀ other ∈ parent :: others, other.label ≠ frame.label
  closed : Closed inner after { frame with code := leave.reverse ++ frame.code } parent others
  emits : Emits around after.frames
    (enter ++ Frame.close { frame with code := leave.reverse ++ frame.code })
  wellformed : Wellformed context after

variable {enter body : List Stmt}

lemma block_encloses (view : View meaning)
    (opens : Opened context around opened fresh enter) (inside : Emits opened.frames inner.frames body)
    (ready : Wellformed context inner) (kind : fresh.kind ≠ .function) (done : inner.endBlock = .ok after) :
    ∃ frame parent others leave, Encloses context around inner after frame parent others enter leave ∧
      fresh.Grows frame ∧ frame.code = body.reverse ∧ ∀ (code : List Stmt) (result : Result ε S V) (machine : Machine S V),
        Agrees meaning inner result (view.watch code none machine) → Matches (frame :: parent :: others) frame.Ready result
          (view.watch (code ++ leave) none machine) := by
  obtain ⟨outer, opening, emits⟩ := opens.frames
  obtain ⟨_, frame, _, upper, same, frames, grows, written, kept⟩ := emits_split inside
  rw [opening] at same
  cases same
  rw [opens.written, append_nil] at written
  have inner' : frame.kind ≠ .function := by
    rw [grows.kind]
    exact kind
  obtain ⟨top, parent, below, others, first, second, more, added, rest⟩ := emits_split (emits_keeps emits kept)
  subst second
  obtain ⟨last, ended, closes⟩ := end_block_closes frames inner' done
  obtain ⟨leave, ends, arrives⟩ := arm_ends view frames ready ended
  have closed := closes leave ends
  have nested := ready.nested
  rw [frames] at nested arrives
  refine ⟨frame, parent, others, leave, ⟨frames, ?_, closed, ?_, ?_⟩, grows, written, arrives⟩
  · intro other member
    cases nested with
    | inside _ _ _ _ _ positive label low lowered between =>
      exact Nat.ne_of_lt (nested_bounds between other member).1
  · rw [closed.frames, first]
    refine .intro top _ below others _ ?_ ?_ rest
    · exact Frame.grows_trans more ⟨⟨rfl, rfl, rfl, rfl, rfl, rfl, id, id, id⟩, rfl⟩
    · rw [reverse_append, append_assoc, ← added]
  · exact closed_wellformed frames ready { frame with code := leave.reverse ++ frame.code }
      ⟨rfl, rfl, rfl, rfl, rfl, rfl, id, id, id⟩ closed

def Frame.divided (frame : Frame) (first : List Stmt) : Frame :=
  { frame with
    thenArm := some (.ofList first, !frame.unreachable)
    unreachable := false
    code := [] }

def BodyState.divide (state : BodyState) (height : Nat) : BodyState :=
  let state := state.modifyTop fun frame =>
    { frame with
      thenArm := some (frame.body, !frame.unreachable)
      unreachable := false
      code := [] }
  { state with stack := state.stack.trim height }

def Frame.refusesElse (frame : Frame) : Bool := !(frame.kind matches .conditional _) || frame.thenArm.isSome

lemma else_eq (frames : inner.frames = frame :: outer) : inner.elseArm = if frame.refusesElse then throw .elseWithoutIf
      else (if frame.unreachable then pure inner else inner.endValues frame) >>= fun last =>
        pure ((last.divide frame.height).pushAll frame.params) := by
  unfold elseArm
  rw [← ended_bind, frames]
  show (if frame.refusesElse then _ else _) = _
  cases frame.refusesElse <;> rfl

variable {divided : BodyState}

lemma else_ok (frames : inner.frames = frame :: outer) (done : inner.elseArm = .ok divided) :
    ∃ last, (if frame.unreachable then pure inner else inner.endValues frame) = .ok last ∧
      divided = (last.divide frame.height).pushAll frame.params := by
  rw [else_eq frames] at done
  split at done
  · cases done
  · obtain ⟨last, ended, done⟩ := bind_ok done
    exact ⟨last, ended, (Except.ok.inj done).symm⟩

lemma else_divides (view : View meaning)
    (opens : Opened context around opened fresh enter) (inside : Emits opened.frames inner.frames body)
    (ready : Wellformed context inner) (done : inner.elseArm = .ok divided) :
    ∃ frame outer leave, inner.frames = frame :: outer ∧ fresh.Grows frame ∧
      Opened context around divided (frame.divided (body ++ leave)) enter ∧
      divided.frames = frame.divided (body ++ leave) :: outer ∧ divided.nextLabel = inner.nextLabel ∧
      ∀ (code : List Stmt) (result : Result ε S V) (machine : Machine S V),
        Agrees meaning inner result (view.watch code none machine) →
        Matches (frame :: outer) frame.Ready result (view.watch (code ++ leave) none machine) := by
  obtain ⟨outer, opening, emits⟩ := opens.frames
  obtain ⟨_, frame, _, upper, same, frames, grows, written, kept⟩ := emits_split inside
  rw [opening] at same
  cases same
  rw [opens.written, append_nil] at written
  obtain ⟨last, ended, after⟩ := else_ok frames done
  obtain ⟨leave, ends, arrives⟩ := arm_ends view frames ready ended
  obtain ⟨stack, top, label, skipped⟩ := push_all frame.params (last.divide frame.height)
  rw [← after] at stack top label skipped
  have low := ends.low
  have settled := settled_drop (last.stack.length - frame.height) _ ends.settled
  simp only [divide, modifyTop, ends.frames] at stack top label skipped
  have opening : divided.frames = frame.divided (body ++ leave) :: upper := by
    rw [top, written, Frame.body, reverse_append, reverse_reverse, reverse_reverse]
    rfl
  have length : divided.stack.length = frame.height + frame.params.length := by
    rw [stack, pushed_length, trim_length last.stack frame.height low]
  have fixed : ∀ height, divided.stack.Fixed height := by
    intro height
    rw [stack]
    exact trimmed_fixed height frame.params low ends.fixed
  rw [frames] at arrives
  refine ⟨frame, upper, leave, frames, grows, ⟨⟨upper, opening, emits_keeps emits kept⟩, rfl,
    rfl, ⟨?_, ?_, fixed _, skipped.trans (ends.skipped.trans ready.skipped)⟩, length, fixed⟩, opening, label.trans ends.label, arrives⟩
  · have nested := ready.nested
    rw [frames] at nested
    rw [opening, length, label, ends.label]
    apply nested_above context _ _ _ _ (le_refl _)
    · exact inner.stack.length
    · exact nested_widens (frame :: upper) _ (.cons ⟨rfl, rfl, rfl, rfl, rfl, rfl, id, id, id⟩ (keeps_widens (keeps_all_refl _))) nested
    · intro first here
      cases here
      exact le_add_right _ _
  · rw [stack]
    exact pushed_settled _ settled

end WasmLua.Compile
