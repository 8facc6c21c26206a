import WasmLua.Proofs.Body.Marks
import WasmLua.Proofs.Body.Operations

namespace WasmLua.Compile

open Nat
open BodyState ValueStack List
open Target (Action Arms Exit Flag Machine Operand Stmt)
open Wasm (Config Effect Instruction Op Result Semantics Surroundings)

variable {ε S V : Type}

def leaving (frame : Frame) (values : List Operand) (flagged : Bool) : List Stmt :=
  moves frame.height values ++ if flagged then [.setFlag frame.label, .leave] else [.leave]

def Frame.reached (frame : Frame) : Frame :=
  if frame.isLoop then frame else { frame with branched := true }

def Frame.passed (frame : Frame) : Frame :=
  if frame.lowered then { frame with escapes := true } else frame

def branching (frames : List Frame) (levels : Nat) (frame : Frame) (flagged : Bool) : List Frame :=
  if flagged then
    (frames.take levels).map Frame.passed ++ { frame.reached with flagSelf := true } :: frames.drop (levels + 1)
  else frames.take levels ++ frame.reached :: frames.drop (levels + 1)

variable (frame : Frame)

lemma Frame.reached_keeps : frame.Keeps frame.reached := by
  unfold Frame.reached
  split
  · exact frame.keeps_refl
  · exact ⟨⟨⟨rfl, rfl, rfl, rfl, rfl, rfl, id, id, fun _ => rfl⟩, rfl⟩, rfl, rfl⟩

variable {state after middle last : BodyState} {count levels : Nat} {fault : StackFault}
  {values : List Operand} {depth otherwise : Int64} {code : List Stmt} {frames outer : List Frame}
  {frame : Frame} {context : BodyContext} {meaning : Semantics ε S V} {taken : Taken}

lemma top_operands_ok (done : state.topOperands count fault = .ok values) :
    count + state.height ≤ state.stack.length ∧ values = state.stack.top count := by
  unfold topOperands at done
  split at done
  · cases done
  · rename_i enough
    cases done
    exact ⟨Nat.le_of_not_lt enough, rfl⟩

lemma branch_ok (done : state.branch depth = .ok (code, after)) :
    0 ≤ depth.toInt ∧ ∃ frame, state.frames[depth.toInt.toNat]? = some frame ∧ frame.arity + state.height ≤ state.stack.length ∧
      ((frame.isFunction = true ∧ code = [.ret (state.stack.top frame.arity)] ∧ after = state) ∨
        ∃ flagged, frame.isFunction = false ∧ flagged = (frame.isLoop || (state.frames.take depth.toInt.toNat).any (·.lowered)) ∧
          code = leaving frame (state.stack.top frame.arity) flagged ∧
          after.frames = branching state.frames depth.toInt.toNat frame flagged ∧
          after.stack = state.stack ∧ after.nextLabel = state.nextLabel ∧ after.skipped = state.skipped) := by
  unfold branch at done
  by_cases negative : depth.toInt < 0
  · simp only [if_pos negative] at done
    cases done
  refine ⟨Int.not_lt.mp negative, ?_⟩
  simp only [if_neg negative] at done
  cases found : state.frames[depth.toInt.toNat]? with
  | none =>
    simp only [found] at done
    cases done
  | some frame =>
    have folded : (if frame.isLoop then frame else { frame with branched := true }) = frame.reached := rfl
    simp only [found, folded] at done
    refine ⟨frame, rfl, ?_⟩
    split at done
    · rename_i outermost
      obtain ⟨values, taken, done⟩ := bind_ok done
      obtain ⟨enough, listed⟩ := top_operands_ok taken
      cases done
      exact ⟨enough, .inl ⟨outermost, by rw [listed], rfl⟩⟩
    · rename_i inner
      obtain ⟨values, taken, done⟩ := bind_ok done
      obtain ⟨enough, listed⟩ := top_operands_ok taken
      subst listed
      have widens := frame.reached_keeps.toWidens
      rw [widens.isLoop] at done
      split at done
      · rename_i direct
        cases done
        refine ⟨enough, .inr ⟨false, by simpa using inner, ?_, rfl, rfl, rfl, rfl, rfl⟩⟩
        simpa using direct
      · rename_i indirect
        cases done
        refine ⟨enough, .inr ⟨true, by simpa using inner, ?_, by rw [widens.label]; rfl, rfl, rfl, rfl, rfl⟩⟩
        cases loop : frame.isLoop with
        | true => rfl
        | false =>
          simp only [loop, Bool.not_false, Bool.true_and, Bool.not_eq_true', Bool.not_eq_false] at indirect
          rw [indirect, Bool.or_true]

lemma split_frames (found : frames[levels]? = some frame) : frames = frames.take levels ++ frame :: frames.drop (levels + 1) ∧
      (frames.take levels).length = levels := by
  obtain ⟨within, same⟩ := List.getElem?_eq_some_iff.mp found
  refine ⟨?_, length_take_of_le (le_of_lt within)⟩
  rw [← same, ← drop_eq_getElem_cons within, take_append_drop]

lemma Frame.passed_keeps : frame.Keeps frame.passed := by
  unfold Frame.passed
  split
  · exact ⟨⟨⟨rfl, rfl, rfl, rfl, rfl, rfl, id, fun _ => rfl, id⟩, rfl⟩, rfl, rfl⟩
  · exact frame.keeps_refl

lemma branching_keeps (flagged : Bool) (found : frames[levels]? = some frame) :
    List.Forall₂ Frame.Keeps frames (branching frames levels frame flagged) := by
  obtain ⟨whole, _⟩ := split_frames found
  have reached := frame.reached_keeps
  unfold branching
  nth_rewrite 1 [whole]
  cases flagged with
  | false => exact rel_append (keeps_all_refl _) (.cons reached (keeps_all_refl _))
  | true =>
    refine rel_append ?_ (.cons ?_ (keeps_all_refl _))
    · rw [forall₂_map_right_iff, forall₂_same]
      exact fun between _ => between.passed_keeps
    · exact Frame.keeps_trans reached ⟨⟨⟨rfl, rfl, rfl, rfl, rfl, rfl, fun _ => rfl, id, id⟩, rfl⟩, rfl, rfl⟩

lemma branching_found (flagged : Bool) (found : frames[levels]? = some frame) : (branching frames levels frame flagged)[levels]?
        = some (if flagged then { frame.reached with flagSelf := true } else frame.reached) ∧
      (branching frames levels frame flagged).take levels
        = if flagged then (frames.take levels).map Frame.passed else frames.take levels := by
  obtain ⟨_, length⟩ := split_frames found
  have mapped : ((frames.take levels).map Frame.passed).length = levels := by
    rw [length_map, length]
  cases flagged with
  | false => constructor <;> simp [branching, length]
  | true =>
    simp only [branching, if_true]
    generalize (frames.take levels).map Frame.passed = front at mapped ⊢
    constructor <;> simp [mapped]

/-- The frames of one state are those of another, with more known of the branches to them. -/
structure Steers (state after : BodyState) : Prop where
  keeps : List.Forall₂ Frame.Keeps state.frames after.frames
  stack : after.stack = state.stack
  label : after.nextLabel = state.nextLabel
  skipped : after.skipped = state.skipped

lemma branch_steers (done : state.branch depth = .ok (code, after)) : Steers state after := by
  obtain ⟨_, frame, found, _, shape⟩ := branch_ok done
  rcases shape with ⟨_, _, same⟩ | ⟨flagged, _, _, _, frames, stack, label, skipped⟩
  · subst same
    exact ⟨keeps_all_refl _, rfl, rfl, rfl⟩
  · exact ⟨frames ▸ branching_keeps flagged found, stack, label, skipped⟩

lemma nested_below {top : Frame} {height next : Nat}
    (nested : Nested context (top :: outer) height next) (member : frame ∈ top :: outer) : frame.height ≤ top.height := by
  rcases mem_cons.mp member with here | later
  · exact le_of_eq (congrArg _ here)
  · cases nested with
    | function => cases later
    | inside _ _ _ _ kind positive label low lowered around =>
      exact (nested_bounds around frame later).2

lemma nested_lowered {height next : Nat} (nested : Nested context frames height next)
    (member : frame ∈ frames) (inner : frame.kind ≠ .function) :
    0 < frame.label ∧ frame.lowered = context.targeted.contains frame.label := by
  induction nested with
  | function found height next kind label low plain results positive =>
    rw [mem_singleton.mp member] at inner
    exact absurd kind inner
  | inside found outer height next kind positive label low lowered around ih =>
    rcases mem_cons.mp member with here | later
    · rw [here]
      exact ⟨positive, lowered⟩
    · exact ih later

lemma lowest_values (meaning : Semantics ε S V) (machine : Machine S V) {stack : ValueStack}
    {height low : Nat} (fixed : stack.Fixed height) (below : low ≤ height) (within : low ≤ stack.length) :
    (stack.values meaning machine).drop ((stack.values meaning machine).length - low) = held machine low := by
  have length : (stack.drop (stack.length - low)).length = low := by
    rw [length_drop]
    omega
  have values := fixed_values meaning machine (stack.drop (stack.length - low)) (fixed_drop _ stack fixed) (by omega)
  rw [values_drop, length] at values
  rw [values_length, values]

lemma leaving_lands (view : View meaning) (flagged : Bool) (fixed : state.stack.Fixed state.height)
    (below : frame.height ≤ state.height) (enough : frame.arity + state.height ≤ state.stack.length) (machine : Machine S V) :
    ∃ last, view.watch (leaving frame (state.stack.top frame.arity) flagged) none machine
        = .ok (.left, if flagged then some frame.label else none) last ∧
      (state.config meaning machine).unwind frame.arity frame.height
        = ⟨held last (frame.height + frame.arity), last.locals, last.store⟩ := by
  have moved := moves_leads view frame.height (state.stack.top frame.arity) machine
  refine ⟨machine.assign frame.height ((state.stack.top frame.arity).map (machine.read meaning)), ?_, ?_⟩
  · unfold View.Leads View.watch at moved
    rw [View.watch, leaving, Target.watch_append, moved]
    cases flagged <;> rfl
  · have carried := top_values meaning machine frame.arity state.stack
    have count : ((state.stack.top frame.arity).map (machine.read meaning)).length = frame.arity := by
      rw [carried, length_reverse, length_take, values_length]
      omega
    have landed := held_assign machine frame.height ((state.stack.top frame.arity).map (machine.read meaning))
    have rest := lowest_values meaning machine fixed below (by omega)
    rw [count, carried, reverse_reverse] at landed
    rw [carried, landed, ← rest]
    rfl

lemma View.watch_ret (view : View meaning) (values : List Operand) (machine : Machine S V) :
    view.watch [.ret values] none machine = .ok (.finished (values.map (machine.read meaning)), none) machine := by
  rw [View.watch, Target.watch_single, Target.Stmt.watch, view.yields]
  rfl

lemma Frame.isFunction_iff : frame.isFunction = true ↔ frame.kind = .function := by
  unfold Frame.isFunction
  cases frame.kind <;> simp

lemma Frame.reached_branched (straight : frame.isLoop = false) : frame.reached.branched = true := by
  simp [Frame.reached, straight]

lemma Frame.passed_escapes (lowered : frame.passed.lowered = true) : frame.passed.escapes = true := by
  unfold Frame.passed at *
  by_cases can : frame.lowered = true
  · simp [can]
  · simp [can] at lowered

lemma branching_signals {flagged : Bool} (found : frames[levels]? = some frame)
    (reason : flagged = (frame.isLoop || (frames.take levels).any (·.lowered))) :
    Signals (branching frames levels frame flagged) levels
      (if flagged then { frame.reached with flagSelf := true } else frame.reached)
      (if flagged then some frame.label else none) := by
  obtain ⟨_, passed⟩ := branching_found flagged found
  have widens := frame.reached_keeps.toWidens
  cases flagged with
  | false =>
    have neither := Bool.or_eq_false_iff.mp reason.symm
    refine ⟨widens.isLoop.trans neither.1, frame.reached_branched neither.1, ?_⟩
    intro between member
    rw [passed] at member
    have none := any_eq_false.mp neither.2 between member
    simpa using none
  | true =>
    refine ⟨widens.label.symm, rfl, ?_, ?_⟩
    · intro straight
      exact frame.reached_branched (widens.isLoop.symm.trans straight)
    · intro between member
      rw [passed] at member
      obtain ⟨before, _, same⟩ := mem_map.mp member
      rw [← same]
      exact before.passed_escapes

lemma branch_agrees (view : View meaning) (wellformed : Wellformed context state)
    (marked : Marked context.targeted (state.frames.map (·.label)) depth)
    (done : state.branch depth = .ok (code, after)) (machine : Machine S V) :
    Agrees meaning after ((state.config meaning machine).jump depth) (view.watch code none machine) := by
  obtain ⟨positive, frame, found, enough, shape⟩ := branch_ok done
  have member : frame ∈ state.frames := mem_of_getElem? found
  rw [Config.jump, if_neg (Int.not_lt.mpr positive)]
  rcases shape with ⟨outermost, same, unchanged⟩ | ⟨flagged, inner, reason, same, frames, _, _, _⟩
  · -- A branch to the function returns.
    rw [same, unchanged]
    have values : (state.stack.top frame.arity).map (machine.read meaning) = (state.config meaning machine).top frame.arity :=
      top_values meaning machine frame.arity state.stack
    rw [view.watch_ret, values]
    refine .outermost _ _ machine frame found (frame.isFunction_iff.mp outermost) ?_ rfl
    rw [BodyState.config, values_length]
    omega
  · have kind : frame.kind ≠ .function := by
      intro outermost
      rw [frame.isFunction_iff.mpr outermost] at inner
      cases inner
    have lowered : frame.lowered = true := by
      obtain ⟨_, label, access, known⟩ := marked
      rw [List.getElem?_map, found] at access
      cases access
      obtain ⟨nonzero, iff⟩ := nested_lowered wellformed.nested member kind
      rw [iff, contains_iff_mem]
      exact known.resolve_left (ne_of_gt nonzero)
    have below : frame.height ≤ state.height := by
      unfold height
      cases top : state.frames with
      | nil =>
        rw [top] at member
        cases member
      | cons first outer =>
        have nested := wellformed.nested
        rw [top] at nested member
        exact nested_below nested member
    obtain ⟨last, left, landed⟩ := leaving_lands view flagged wellformed.fixed below enough machine
    obtain ⟨access, passed⟩ := branching_found flagged found
    have signals := branching_signals found reason
    have widens := frame.reached_keeps.toWidens
    rw [← frames] at access signals
    rw [same, left]
    have target : ∃ target, after.frames[depth.toInt.toNat]? = some target ∧ frame.Widens target ∧
        Signals after.frames depth.toInt.toNat target (if flagged then some frame.label else none) := by
      refine ⟨_, access, ?_, signals⟩
      cases flagged with
      | false => exact widens
      | true => exact Frame.widens_trans _ widens ⟨rfl, rfl, rfl, rfl, rfl, rfl, fun _ => rfl, id, id⟩
    obtain ⟨target, access, wider, signals⟩ := target
    rw [← wider.arity, ← wider.height] at landed
    refine .branch _ _ last _ target access ?_ (wider.lowered.trans lowered) signals ?_ landed
    · rw [wider.kind]
      exact kind
    · rw [wider.arity, wider.height, BodyState.config, values_length]
      omega

lemma jump_stops {config : Config S V} (depth : Int64) (other : Config S V) :
    (config.jump depth : Result ε S V) ≠ .next other := by
  unfold Config.jump
  split <;> exact nofun

lemma keeps_emits {first middle last : List Frame} (keeps : List.Forall₂ Frame.Keeps first middle)
    (emits : Emits middle last code) : Emits first last code := by
  cases emits with
  | intro frame after outer others _ grows written kept =>
    cases keeps with
    | cons here rest =>
      refine .intro _ after _ others code (Frame.grows_trans here.toGrows grows) ?_ (keeps_all_trans _ rest kept)
      rw [written, here.code]

lemma widened_wellformed (wellformed : Wellformed context before)
    (widens : List.Forall₂ Frame.Widens before.frames after.frames) (stack : after.stack = before.stack)
    (label : after.nextLabel = before.nextLabel) (skipped : after.skipped = before.skipped) : Wellformed context after := by
  have height : after.height = before.height := by
    unfold height
    generalize before.frames = first at widens ⊢
    generalize after.frames = second at widens ⊢
    cases widens with
    | nil => rfl
    | cons here rest => exact here.height
  refine ⟨?_, ?_, ?_, skipped.trans wellformed.skipped⟩
  · rw [stack, label]
    exact nested_widens _ _ widens wellformed.nested
  · rw [stack]
    exact wellformed.settled
  · rw [stack, height]
    exact wellformed.fixed

lemma Steers.wellformed (steers : Steers state after) (wellformed : Wellformed context state) : Wellformed context after :=
  widened_wellformed wellformed (keeps_widens steers.keeps) steers.stack steers.label steers.skipped

variable {machine : Machine S V}

lemma Steers.config (steers : Steers state after) :
    after.config meaning machine = state.config meaning machine := by
  rw [BodyState.config, BodyState.config, steers.stack]

def BodyState.ended (state : BodyState) (code : List Stmt) : BodyState := (state.emit code).setUnreachable

lemma ended_frames (code : List Stmt) (top : state.frames = frame :: outer) : (state.ended code).frames
      = { frame with code := code.reverse ++ frame.code, unreachable := true } :: outer := by
  simp only [ended, setUnreachable, modifyTop, state.emit_frames code frame outer top]

lemma ended_others (state : BodyState) (code : List Stmt) :
    (state.ended code).stack = state.stack ∧ (state.ended code).nextLabel = state.nextLabel ∧
      (state.ended code).skipped = state.skipped := by
  rw [← state.emit_stack code, ← state.emit_label code, ← state.emit_skipped code]
  unfold ended setUnreachable modifyTop
  split <;> exact ⟨rfl, rfl, rfl⟩

section Simulation

variable {context : BodyContext} {meaning : Semantics ε S V} (view : View meaning)
  {before after : BodyState} (wellformed : Wellformed context before) (live : before.Live)

include wellformed live

omit wellformed in
lemma ended_simulates (run : Config S V → Result ε S V) (code : List Stmt)
    (keeps : List.Forall₂ Frame.Keeps before.frames middle.frames) (ready : Wellformed context middle)
    (label : middle.nextLabel = before.nextLabel) (stops : ∀ machine config, run (before.config meaning machine) ≠ .next config)
    (agrees : ∀ machine, Agrees meaning middle (run (before.config meaning machine))
      (view.watch code none machine)) : Simulates context view before (middle.ended code) 0 run code := by
  obtain ⟨top, outer, opened, _⟩ := live
  have whole := keeps
  rw [opened] at whole
  obtain ⟨frame, others, here, rest, same⟩ := forall₂_cons_left_iff.mp whole
  have frames := ended_frames code same
  have added : Emits middle.frames (middle.ended code).frames code := by
    rw [frames, same]
    exact .intro _ _ _ _ _ ⟨⟨rfl, rfl, rfl, rfl, rfl, rfl, id, id, id⟩, rfl⟩ rfl (keeps_all_refl _)
  have emits := keeps_emits keeps added
  obtain ⟨sameStack, sameLabel, sameSkipped⟩ := ended_others middle code
  refine ⟨emits, ?_, sameLabel.trans label, ?_⟩
  · exact widened_wellformed ready (emits_widens added) sameStack sameLabel sameSkipped
  · intro machine
    exact agrees_widens meaning (emits_widens added) (stops machine) (agrees machine)

lemma jump_simulates (marked : Marked context.targeted (before.frames.map (·.label)) depth)
    (done : before.jump depth = .ok after) :
    ∃ code, Simulates context view before after 0 (fun config => config.jump depth) code := by
  obtain ⟨⟨code, middle⟩, taken, done⟩ := bind_ok done
  cases done
  have steers := branch_steers taken
  refine ⟨code, ended_simulates view live _ code steers.keeps (steers.wellformed wellformed) steers.label ?_
    (branch_agrees view wellformed marked taken)⟩
  exact fun machine => jump_stops depth

lemma ret_simulates (taken : before.topOperands count fault = .ok values) :
    ∃ code, Simulates context view before (before.ended [.ret values]) 0 (fun config => config.give count) code := by
  obtain ⟨enough, listed⟩ := top_operands_ok taken
  have given : ∀ machine, (before.config meaning machine).give count
      = (.returned ((before.config meaning machine).top count) machine.store : Result ε S V) := by
    intro machine
    have within : ¬ (before.config meaning machine).stack.length < count := by
      rw [BodyState.config, values_length]
      omega
    rw [Config.give, if_neg within]
    rfl
  refine ⟨_, ended_simulates view live _ _ (keeps_all_refl _) wellformed rfl ?_ ?_⟩
  · intro machine config
    rw [given]
    intro same
    cases same
  · intro machine
    have same : values.map (machine.read meaning) = (before.config meaning machine).top count := by
      rw [listed]
      exact top_values meaning machine count before.stack
    rw [given, view.watch_ret, same]
    exact .returned _ machine

lemma unreachable_simulates : ∃ code, Simulates context view before (before.ended [.act .unreachable]) 0
      (fun config => .trapped meaning.unreachable config.store) code := by
  refine ⟨_, ended_simulates view live _ _ (keeps_all_refl _) wellformed rfl nofun ?_⟩
  intro machine
  rw [view.watch_act .unreachable machine nofun]
  exact .trapped meaning.unreachable machine

omit wellformed live in
lemma config_pop (popped : before.pop = .ok (taken, middle)) : (before.config meaning machine).pop rest
      = rest (machine.read meaning taken.operand) (middle.config meaning machine) := by
  obtain ⟨entry, below, stack, _, same, moved⟩ := pop_ok popped
  rw [moved, same, BodyState.config, stack]
  rfl

lemma popped_jump_simulates (marked : Marked context.targeted (before.frames.map (·.label)) depth)
    (popped : before.pop = .ok (taken, middle)) (done : middle.jump depth = .ok after) :
    ∃ code, Simulates context view before after 0 (fun config => config.pop fun _ config => config.jump depth) code := by
  obtain ⟨code, dropped⟩ := drop_simulates view wellformed live popped
  have moved := (pop_takes popped).moved
  have frames : middle.frames = before.frames := by rw [moved]
  have reached : middle.Live := by
    rw [moved]
    exact live
  obtain ⟨more, jumped⟩ := jump_simulates view dropped.wellformed reached (frames ▸ marked) done
  refine ⟨code ++ more, simulates_congr ?_ (simulates_trans dropped jumped)⟩
  intro machine
  rw [config_pop popped, config_pop popped]
  rfl

omit live in
lemma popped_wellformed (popped : before.pop = .ok (taken, middle)) : Wellformed context middle := by
  obtain ⟨entry, rest, stack, high, _, moved⟩ := pop_ok popped
  have settled := wellformed.settled
  have fixed := wellformed.fixed
  rw [stack] at settled fixed
  subst moved
  refine ⟨?_, settled.2, fixed.2, wellformed.skipped⟩
  apply nested_above context _ _ wellformed.nested _ (le_refl _)
  intro frame here
  have top : before.height = frame.height := by
    unfold height
    cases opened : before.frames with
    | nil =>
      rw [opened] at here
      cases here
    | cons first outer =>
      rw [opened] at here
      cases here
      rfl
  rw [← top]
  exact high

section

variable (marked : Marked context.targeted (before.frames.map (·.label)) depth)

include marked

lemma chosen_branch_simulates (popped : before.pop = .ok (taken, middle)) (branched : middle.branch depth = .ok (code, last)) :
    ∃ more, Simulates context view before (last.emit [.choose (.arm (.value (.nonzero taken.operand)) (.ofList code) .none)]) 0
      (fun config => config.pop fun condition config =>
        if meaning.word condition = 0 then .next config else config.jump depth) more := by
  have inside := popped_wellformed wellformed popped
  have moved := (pop_takes popped).moved
  have frames : middle.frames = before.frames := by rw [moved]
  have steers := branch_steers branched
  obtain ⟨top, outer, opened, reached⟩ := live
  have whole := steers.keeps
  rw [frames, opened] at whole
  obtain ⟨frame, others, here, rest, same⟩ := forall₂_cons_left_iff.mp whole
  have alive : last.Live := ⟨frame, others, same, here.unreachable.trans reached⟩
  generalize statement : Stmt.choose (.arm (.value (.nonzero taken.operand)) (.ofList code) .none) = choice
  have advances : Advances last (last.emit [choice]) [choice] := ⟨rfl, last.emit_label _, last.emit_skipped _⟩
  have added := advances_emits alive advances
  refine ⟨[choice], keeps_emits (frames ▸ steers.keeps) added, ?_, ?_, ?_⟩
  · apply widened_wellformed (steers.wellformed inside) (emits_widens added)
    · exact last.emit_stack _
    · exact last.emit_label _
    · exact last.emit_skipped _
  · rw [last.emit_label, steers.label, moved]
    rfl
  · intro machine
    have watched : view.watch [choice] none machine
        = if machine.holds meaning (.nonzero taken.operand) then view.watch code none machine
          else .ok (.next, none) machine := by
      rw [← statement, View.watch_test]
      rfl
    show Agrees meaning (last.emit [choice]) ((before.config meaning machine).pop _) _
    rw [config_pop popped, watched, Machine.holds]
    by_cases zero : meaning.word (machine.read meaning taken.operand) = 0
    · rw [if_pos zero, if_neg (by simp [zero])]
      have config : (last.emit [choice]).config meaning machine = last.config meaning machine := by
        rw [BodyState.config, BodyState.config, last.emit_stack]
      rw [← steers.config, ← config]
      exact .next _ machine ⟨advances_live alive advances, rfl⟩
    · rw [if_neg zero, if_pos (by simp [zero])]
      apply agrees_widens meaning (emits_widens added)
      · exact jump_stops _
      · exact branch_agrees view inside (frames ▸ marked) branched machine

lemma branch_if_simulates (done : before.branchIf depth = .ok after) : ∃ code, Simulates context view before after 0
      (fun config => config.pop fun condition config =>
        if meaning.word condition = 0 then .next config else config.jump depth) code := by
  obtain ⟨⟨taken, middle⟩, popped, done⟩ := bind_ok done
  simp only [] at done
  split at done
  · rename_i value constant
    have word : ∀ machine : Machine S V, meaning.word (machine.read meaning taken.operand) = value := by
      intro machine
      rw [constant_operand constant]
      exact meaning.word_constant value
    split at done
    · rename_i zero
      cases done
      obtain ⟨code, dropped⟩ := drop_simulates view wellformed live popped
      refine ⟨code, simulates_congr ?_ dropped⟩
      intro machine
      rw [config_pop popped, config_pop popped, word, if_pos (beq_iff_eq.mp zero)]
    · rename_i nonzero
      obtain ⟨code, jumped⟩ := popped_jump_simulates view wellformed live marked popped done
      refine ⟨code, simulates_congr ?_ jumped⟩
      intro machine
      rw [config_pop popped, config_pop popped, word, if_neg (mt beq_iff_eq.mpr nonzero)]
  · obtain ⟨⟨code, last⟩, branched, done⟩ := bind_ok done
    cases done
    exact chosen_branch_simulates view wellformed live marked popped branched

end

end Simulation

namespace BodyState

def Run.Covers (run : Run) (index : Nat) : Prop := run.first ≤ index ∧ index ≤ run.last

variable {labels : List Int64}

lemma runs_first (same : runs index labels = run :: more) : run.first = index := by
  cases labels with
  | nil => cases same
  | cons label rest =>
    rw [runs] at same
    split at same
    · split at same <;> cases same <;> rfl
    · cases same
      rfl

lemma runs_cover (index : Nat) (run : Run) (member : run ∈ runs index labels) : index ≤ run.first ∧ run.first ≤ run.last ∧
      ∀ number, run.Covers number → labels[number - index]? = some run.label := by
  induction labels generalizing index run with
  | nil => cases member
  | cons label rest ih =>
    -- What a later run covers starts behind the first index.
    have later : ∀ other ∈ runs (index + 1) rest, index + 1 ≤ other.first ∧ other.first ≤ other.last ∧
        ∀ number, other.Covers number → (label :: rest)[number - index]? = some other.label := by
      intro other inside
      obtain ⟨past, ordered, covers⟩ := ih (index + 1) other inside
      refine ⟨past, ordered, fun number covered => ?_⟩
      have low := covered.1
      rw [show number - index = number - (index + 1) + 1 by omega, List.getElem?_cons_succ]
      exact covers number covered
    have behind (other : Run) (inside : other ∈ runs (index + 1) rest) : index ≤ other.first ∧ other.first ≤ other.last ∧
          ∀ number, other.Covers number → (label :: rest)[number - index]? = some other.label :=
      ⟨Nat.le_of_succ_le (later other inside).1, (later other inside).2⟩
    have single : ∀ number, Run.Covers ⟨index, index, label⟩ number → (label :: rest)[number - index]? = some label := by
      rintro number ⟨low, high⟩
      rw [show number = index from Nat.le_antisymm high low, Nat.sub_self, List.getElem?_cons_zero]
    rw [runs] at member
    split at member
    · rename_i head tail following
      obtain ⟨past, ordered, covers⟩ := later head (following ▸ mem_cons_self)
      split at member
      · rename_i equal
        rcases mem_cons.mp member with rfl | inside
        · refine ⟨Nat.le_refl _, by change index ≤ head.last; omega, ?_⟩
          rintro number ⟨low, high⟩
          by_cases start : number = index
          · simp [start, beq_iff_eq.mp equal]
          · have first := runs_first following
            exact covers number ⟨by change index ≤ number at low; omega, high⟩
        · exact behind run (following ▸ mem_cons_of_mem _ inside)
      · rcases mem_cons.mp member with rfl | inside
        · exact ⟨Nat.le_refl _, Nat.le_refl _, single⟩
        · exact behind run (following ▸ inside)
    · cases mem_singleton.mp member
      exact ⟨Nat.le_refl _, Nat.le_refl _, single⟩

lemma runs_complete (index : Nat) (number : Nat) (within : number < labels.length) :
    ∃ run ∈ runs index labels, run.Covers (index + number) := by
  induction labels generalizing index number with
  | nil => cases within
  | cons label rest ih =>
    have shifted : ∀ later, number = later + 1 → index + number = index + 1 + later := by
      intro later same
      omega
    rw [runs]
    split
    · rename_i head tail following
      have first := runs_first following
      have ordered := (runs_cover _ head (following ▸ mem_cons_self)).2.1
      split
      · cases number with
        | zero =>
          refine ⟨_, mem_cons_self, le_refl _, ?_⟩
          show index ≤ head.last
          omega
        | succ number =>
          obtain ⟨run, inside, low, high⟩ := ih (index + 1) number (lt_of_succ_lt_succ within)
          rw [following] at inside
          rw [shifted number rfl]
          rcases mem_cons.mp inside with here | later
          · subst here
            refine ⟨_, mem_cons_self, ?_, high⟩
            show index ≤ index + 1 + number
            omega
          · exact ⟨run, mem_cons_of_mem _ later, low, high⟩
      · cases number with
        | zero => exact ⟨_, mem_cons_self, le_refl _, le_refl _⟩
        | succ number =>
          obtain ⟨run, inside, low, high⟩ := ih (index + 1) number (lt_of_succ_lt_succ within)
          rw [shifted number rfl]
          exact ⟨run, mem_cons_of_mem _ (following ▸ inside), low, high⟩
    · rename_i none
      cases number with
      | zero => exact ⟨_, mem_cons_self, le_refl _, le_refl _⟩
      | succ number =>
        obtain ⟨run, inside, _⟩ := ih (index + 1) number (lt_of_succ_lt_succ within)
        rw [none] at inside
        cases inside

lemma run_test (meaning : Semantics ε S V) (machine : Machine S V) (index : Operand) (run : Run) :
    machine.holds meaning (run.test index) = true ↔ (run.first : Int) ≤ (meaning.word (machine.read meaning index)).toInt ∧
        (meaning.word (machine.read meaning index)).toInt ≤ run.last := by
  unfold Run.test
  split
  · rename_i single
    rw [Machine.holds, beq_iff_eq, ← single]
    omega
  · rw [Machine.holds]
    exact decide_eq_true_iff

def picked (holds : Run → Bool) (otherwise : Int64) (runs : List Run) : Int64 := ((runs.find? holds).map (·.label)).getD otherwise

lemma word_number (word : Int32) : word.toInt = if word.toUInt32.toNat < 2 ^ 31 then (word.toUInt32.toNat : Int)
      else (word.toUInt32.toNat : Int) - 2 ^ 32 := by
  have same : word.toUInt32.toNat = word.toBitVec.toNat := rfl
  show word.toBitVec.toInt = _
  rw [BitVec.toInt_eq_toNat_cond, same]
  split <;> split <;> omega

lemma picked_selected (holds : Run → Bool) (index : Int32) (otherwise : Int64)
    (tests : ∀ run, holds run = true ↔ (run.first : Int) ≤ index.toInt ∧ index.toInt ≤ run.last)
    (bounded : labels.length ≤ 2 ^ 31) : picked holds otherwise ((runs 0 labels).filter (·.label != otherwise))
      = Wasm.selected labels otherwise index := by
  have number := word_number index
  have small := index.toUInt32.toNat_lt
  unfold picked Wasm.selected
  generalize index.toInt = word at number tests
  generalize index.toUInt32.toNat = position at number small ⊢
  cases found : ((runs 0 labels).filter (·.label != otherwise)).find? holds with
  | some run =>
    obtain ⟨low, high⟩ := (tests run).mp (find?_some found)
    have member := (mem_filter.mp (mem_of_find?_eq_some found)).1
    have same : word = position := by
      split at number <;> omega
    have access := (runs_cover 0 run member).2.2 position ⟨by omega, by omega⟩
    rw [Nat.sub_zero] at access
    rw [access]
    rfl
  | none =>
    have fails := find?_eq_none.mp found
    cases access : labels[position]? with
    | none => rfl
    | some label =>
      obtain ⟨within, _⟩ := List.getElem?_eq_some_iff.mp access
      obtain ⟨run, member, covered⟩ := runs_complete 0 position within
      have same := (runs_cover 0 run member).2.2 _ covered
      obtain ⟨low, high⟩ := covered
      rw [Nat.zero_add, Nat.sub_zero, access] at same
      by_cases default : run.label = otherwise
      · rw [← default]
        exact Option.some.inj same.symm
      · have listed : run ∈ (runs 0 labels).filter (·.label != otherwise) := mem_filter.mpr ⟨member, by simpa using default⟩
        refine absurd ((tests run).mpr ⟨?_, ?_⟩) (fails run listed)
        all_goals
          rw [number, if_pos (by omega)]
          omega

lemma runs_label (labels : List Int64) (run : Run) (member : run ∈ runs 0 labels) : labels[run.first]? = some run.label := by
  obtain ⟨_, ordered, covers⟩ := runs_cover 0 run member
  exact covers run.first ⟨le_refl _, ordered⟩

lemma selected_member (labels : List Int64) (otherwise : Int64) (index : Int32) :
    Wasm.selected labels otherwise index ∈ labels ++ [otherwise] := by
  unfold Wasm.selected
  cases found : labels[index.toUInt32.toNat]? with
  | none => exact mem_append_right _ mem_cons_self
  | some label => exact mem_append_left _ (mem_of_getElem? found)

end BodyState

variable {runs : List BodyState.Run}

lemma table_arms_agree (view : View meaning)
    (state : BodyState) (arms : Arms) (wellformed : Wellformed context state)
    (marked : ∀ label, label = otherwise ∨ label ∈ runs.map (·.label) → Marked context.targeted (state.frames.map (·.label)) label)
    (done : tableArms index otherwise runs state = .ok (arms, after)) : Steers state after ∧ ∀ machine, Agrees meaning after
      ((state.config meaning machine).jump (picked (fun run => machine.holds meaning (run.test index)) otherwise runs))
      (arms.watch view.seen view.rounds none machine) := by
  induction runs generalizing state arms with
  | nil =>
    obtain ⟨⟨code, last⟩, branched, done⟩ := bind_ok done
    cases done
    exact ⟨branch_steers branched, branch_agrees view wellformed (marked otherwise (.inl rfl)) branched⟩
  | cons run runs ih =>
    obtain ⟨⟨code, middle⟩, branched, done⟩ := bind_ok done
    obtain ⟨⟨rest, last⟩, remaining, done⟩ := bind_ok done
    cases done
    have steers := branch_steers branched
    have others : ∀ label, label = otherwise ∨ label ∈ runs.map (·.label) →
        Marked context.targeted (middle.frames.map (·.label)) label := by
      intro label listed
      rw [widened_labels (keeps_widens steers.keeps)]
      exact marked label (listed.imp id (mem_cons_of_mem _))
    obtain ⟨behind, agrees⟩ := ih middle rest (steers.wellformed wellformed) others remaining
    refine ⟨⟨keeps_all_trans _ steers.keeps behind.keeps, behind.stack.trans steers.stack,
      behind.label.trans steers.label, behind.skipped.trans steers.skipped⟩, ?_⟩
    intro machine
    have tested : (Target.Condition.value (run.test index)).holds (view.seen none) none machine
        = .ok (machine.holds meaning (run.test index)) machine := by
      rw [Target.Condition.holds, view.tests]
      rfl
    rw [Arms.watch, tested, picked, find?_cons]
    cases machine.holds meaning (run.test index) with
    | true =>
      apply agrees_widens meaning (keeps_widens behind.keeps)
      · exact jump_stops _
      · exact branch_agrees view wellformed (marked run.label (.inr mem_cons_self)) branched machine
    | false =>
      rw [← steers.config]
      exact agrees machine

section Simulation

variable {context : BodyContext} {meaning : Semantics ε S V} (view : View meaning)
  {before after : BodyState} (wellformed : Wellformed context before) (live : before.Live)

include wellformed live

lemma chosen_table_simulates (marked : ∀ label, label = otherwise ∨ label ∈ runs.map (·.label) →
      Marked context.targeted (before.frames.map (·.label)) label) (popped : before.pop = .ok (taken, middle))
    (done : tableArms taken.operand otherwise runs middle = .ok (arms, last))
    (same : ∀ machine, run (before.config meaning machine) = (middle.config meaning machine).jump
      (picked (fun run => machine.holds meaning (run.test taken.operand)) otherwise runs)) :
    ∃ code, Simulates context view before (last.ended [.choose arms]) 0 run code := by
  have inside := popped_wellformed wellformed popped
  have moved := (pop_takes popped).moved
  have frames : middle.frames = before.frames := by rw [moved]
  obtain ⟨steers, agrees⟩ := table_arms_agree view middle arms inside (frames ▸ marked) done
  refine ⟨_, ended_simulates view live run [.choose arms] (frames ▸ steers.keeps) (steers.wellformed inside) ?_ ?_ ?_⟩
  · rw [steers.label, moved]
  · intro machine
    rw [same]
    exact jump_stops _
  · intro machine
    rw [same, View.watch, Target.watch_single, Target.Stmt.watch]
    exact agrees machine

lemma branch_table_simulates (bounded : labels.length ≤ 2 ^ 31)
    (marked : ∀ label ∈ labels ++ [otherwise], Marked context.targeted (before.frames.map (·.label)) label)
    (done : before.branchTable labels otherwise = .ok after) : ∃ code, Simulates context view before after 0
      (fun config => config.pop fun index config => config.jump (Wasm.selected labels otherwise (meaning.word index))) code := by
  obtain ⟨⟨taken, middle⟩, popped, done⟩ := bind_ok done
  have picked := fun machine => picked_selected _ _ otherwise (run_test meaning machine taken.operand) bounded
  simp only [] at done
  split at done
  · rename_i value constant
    obtain ⟨code, jumped⟩ := popped_jump_simulates view wellformed live
      (marked _ (selected_member labels otherwise value)) popped done
    refine ⟨code, simulates_congr ?_ jumped⟩
    intro machine
    rw [config_pop popped, config_pop popped, constant_operand constant]
    show (middle.config meaning machine).jump (Wasm.selected labels otherwise (meaning.word (meaning.constant (.i32 value)))) = _
    rw [meaning.word_constant]
  · split at done
    · -- Every label is the default.
      rename_i same
      obtain ⟨code, jumped⟩ := popped_jump_simulates view wellformed live (marked otherwise (by simp)) popped done
      refine ⟨code, simulates_congr ?_ jumped⟩
      intro machine
      rw [config_pop popped, config_pop popped, ← picked machine, same]
      rfl
    · obtain ⟨⟨arms, last⟩, tested, done⟩ := bind_ok done
      cases done
      refine chosen_table_simulates view wellformed live ?_ popped tested ?_
      · intro label listed
        rcases listed with default | run
        · exact marked label (by simp [default])
        · obtain ⟨run, member, equal⟩ := mem_map.mp run
          rw [← equal]
          have known := runs_label labels run (mem_filter.mp member).1
          exact marked run.label (mem_append_left _ (mem_of_getElem? known))
      · intro machine
        rw [config_pop popped, picked machine]

end Simulation

end WasmLua.Compile
