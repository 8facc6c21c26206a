import WasmLua.Proofs.Body.Frames

namespace WasmLua.Compile

open BodyState ValueStack List
open Target (Action Atom Callee Computation Machine Operand Stmt)
open Wasm (Config Effect Instruction Op Result Semantics Surroundings Task ValueType)

variable {ε S V : Type}

variable {α : Type} {before after middle : BodyState} {code : List Stmt} {context : BodyContext}
  {meaning : Semantics ε S V} {params : Nat} {operands : List Operand} {type : ValueType}
  {callee : Callee} {signature : Wasm.Signature} {rest : ValueStack} {task : Task} {taken : Taken} {run : Config S V → Result ε S V}

variable {first : Except ε α}

lemma bind_ok {β : Type} {rest : α → Except ε β} {result : β}
    (done : (first >>= rest) = .ok result) : ∃ value, first = .ok value ∧ rest value = .ok result := by
  cases first with
  | error fault => cases done
  | ok value => exact ⟨value, rfl, done⟩

lemma map_error_ok {φ : Type} {change : ε → φ}
    (done : first.mapError change = .ok result) : first = .ok result := by
  cases first with
  | error fault => cases done
  | ok value =>
    cases done
    rfl

namespace BodyState

section

variable (state : BodyState) (code : List Stmt)

lemma emit_frames (frame : Frame) (outer : List Frame)
    (top : state.frames = frame :: outer) :
    (state.emit code).frames = { frame with code := code.reverse ++ frame.code } :: outer := by
  simp only [emit, modifyTop, top]

lemma emit_stack : (state.emit code).stack = state.stack := by
  unfold emit modifyTop
  split <;> rfl

lemma emit_label : (state.emit code).nextLabel = state.nextLabel := by
  unfold emit modifyTop
  split <;> rfl

lemma emit_skipped : (state.emit code).skipped = state.skipped := by
  unfold emit modifyTop
  split <;> rfl

end

variable {first second state after : BodyState} {taken : Taken} {count : Nat}

lemma emit_congr (same : second.frames = first.frames) : (second.emit code).frames = (first.emit code).frames := by
  unfold emit modifyTop
  rw [same]
  split
  · rfl
  · rw [same]

lemma emit_append {first second : List Stmt} :
    ((state.emit first).emit second).frames = (state.emit (first ++ second)).frames := by
  cases top : state.frames with
  | nil => simp [emit, modifyTop, top]
  | cons frame outer =>
    rw [emit_frames _ second _ _ (emit_frames state first frame outer top),
      emit_frames state _ frame outer top, reverse_append, append_assoc]

lemma emit_nil (state : BodyState) : (state.emit []).frames = state.frames := by
  cases top : state.frames with
  | nil => simp [emit, modifyTop, top]
  | cons frame outer => rw [emit_frames state [] frame outer top, reverse_nil, nil_append]

lemma push_all (types : List ValueType) (state : BodyState) :
    (state.pushAll types).stack = state.stack.pushed types ∧ (state.pushAll types).frames = state.frames ∧
      (state.pushAll types).nextLabel = state.nextLabel ∧ (state.pushAll types).skipped = state.skipped := by
  induction types generalizing state with
  | nil => exact ⟨rfl, rfl, rfl, rfl⟩
  | cons type types ih =>
    obtain ⟨stack, frames, label, skipped⟩ := ih (state.push type)
    refine ⟨?_, frames, label, skipped⟩
    rw [pushAll, foldl_cons, ← pushAll, stack]
    simp [pushed, push, pushEntry]

lemma pop_ok (popped : state.pop = .ok (taken, after)) : ∃ entry rest, state.stack = entry :: rest ∧ state.height ≤ rest.length ∧
      taken = ⟨entry.type, entry.operand rest.length⟩ ∧ after = { state with stack := rest } := by
  unfold pop at popped
  split at popped
  · cases popped
  · rename_i entry rest stack
    split at popped
    · cases popped
    · rename_i high
      cases popped
      exact ⟨entry, rest, stack, Nat.le_of_not_lt high, rfl, rfl⟩

structure Takes (state after : BodyState) (count : Nat) (operands : List Operand) : Prop where
  enough : count + state.height ≤ state.stack.length
  listed : state.stack.top count = operands
  moved : after = { state with stack := state.stack.drop count }

lemma takes_none (low : state.height ≤ state.stack.length) : Takes state state 0 [] :=
  ⟨by omega, rfl, rfl⟩

lemma takes_trans (before : Takes first second count upper) (after : Takes second third more lower) :
    Takes first third (count + more) (lower ++ upper) := by
  have moved := before.moved
  subst moved
  refine ⟨?_, ?_, ?_⟩
  · have low : more + first.height ≤ (first.stack.drop count).length := after.enough
    rw [length_drop] at low
    have high := before.enough
    omega
  · rw [top_add, before.listed, ← after.listed]
  · rw [after.moved, drop_drop]

lemma takes_low (takes : Takes state after count operands) : after.height ≤ after.stack.length := by
  have enough := takes.enough
  rw [takes.moved]
  show state.height ≤ (state.stack.drop count).length
  rw [length_drop]
  omega

lemma pop_takes (popped : state.pop = .ok (taken, after)) : Takes state after 1 [taken.operand] := by
  obtain ⟨entry, rest, stack, high, same, moved⟩ := pop_ok popped
  refine ⟨?_, ?_, ?_⟩
  · rw [stack, length_cons]
    omega
  · rw [stack, same]
    simp [top, operands]
  · rw [moved, stack]
    rfl

lemma pop_many_takes (state : BodyState) (operands : List Operand)
    (popped : popMany count state = .ok (operands, after)) (low : state.height ≤ state.stack.length) :
    Takes state after count operands := by
  induction count generalizing state operands with
  | zero =>
    cases popped
    exact takes_none low
  | succ count ih =>
    rw [popMany] at popped
    obtain ⟨⟨taken, middle⟩, first, popped⟩ := bind_ok popped
    obtain ⟨⟨deeper, last⟩, second, popped⟩ := bind_ok popped
    cases popped
    have upper := pop_takes first
    rw [Nat.add_comm]
    exact takes_trans upper (ih middle deeper second (takes_low upper))

end BodyState

structure Advances (before after : BodyState) (code : List Stmt) : Prop where
  frames : after.frames = (before.emit code).frames
  label : after.nextLabel = before.nextLabel
  skipped : after.skipped = before.skipped

lemma advances_live (live : before.Live) (advances : Advances before after code) : after.Live := by
  obtain ⟨frame, outer, top, reached⟩ := live
  exact ⟨_, outer, advances.frames.trans (before.emit_frames code frame outer top), reached⟩

lemma advances_emits (live : before.Live) (advances : Advances before after code) : Emits before.frames after.frames code := by
  obtain ⟨frame, outer, top, reached⟩ := live
  rw [advances.frames, before.emit_frames code frame outer top, top]
  exact .intro _ _ _ _ _ ⟨⟨rfl, rfl, rfl, rfl, rfl, rfl, id, id, id⟩, rfl⟩ rfl (keeps_all_refl outer)

lemma advances_wellformed (after : BodyState) (wellformed : Wellformed context before)
    (live : before.Live) (advances : Advances before after code)
    (low : before.height ≤ after.stack.length) (settled : after.stack.Settled)
    (fixed : after.stack.Fixed before.height) : Wellformed context after := by
  have emits := advances_emits live advances
  obtain ⟨frame, outer, top, reached⟩ := live
  have frames := advances.frames.trans (before.emit_frames code frame outer top)
  have height : after.height = before.height := by simp only [BodyState.height, frames, top]
  refine ⟨?_, settled, ?_, advances.skipped.trans wellformed.skipped⟩
  · rw [advances.label]
    apply nested_above context _ _ (nested_widens _ _ (emits_widens emits) wellformed.nested) _ (Nat.le_refl _)
    intro found here
    rw [frames] at here
    cases here
    simp only [BodyState.height, top] at low
    exact low
  · rw [height]
    exact fixed

lemma wellformed_low {state : BodyState} (wellformed : Wellformed context state) : state.height ≤ state.stack.length := by
  unfold BodyState.height
  cases top : state.frames with
  | nil => exact Nat.zero_le _
  | cons frame outer =>
    exact (nested_bounds wellformed.nested frame (top ▸ mem_cons_self)).2

lemma straight_simulates (view : View meaning) (run : Config S V → Result ε S V) (code : List Stmt)
    (wellformed : Wellformed context before) (live : before.Live) (advances : Advances before after code)
    (low : before.height ≤ after.stack.length) (settled : after.stack.Settled)
    (fixed : after.stack.Fixed before.height) (does : ∀ machine, (∃ last, view.Leads code machine last ∧
        run (before.config meaning machine) = .next (after.config meaning last)) ∨
      ∃ error last, view.watch code none machine = .error error last ∧ run (before.config meaning machine) = .trapped error last.store) :
    Simulates context view before after 0 run code where
  emits := advances_emits live advances
  wellformed := advances_wellformed after wellformed live advances low settled fixed
  labels := advances.label
  follows := by
    intro machine
    rcases does machine with ⟨last, leads, same⟩ | ⟨error, last, fails, same⟩
    · rw [same, leads]
      exact .next _ last ⟨advances_live live advances, rfl⟩
    · rw [same, fails]
      exact .trapped error last

lemma assign_nil {machine : Machine S V} {slot : Nat} : machine.assign slot [] = machine := by
  simp [Machine.assign]

lemma pop_two_takes (first : before.pop = .ok (b, middle))
    (second : middle.pop = .ok (a, last)) : BodyState.Takes before last 2 [a.operand, b.operand] :=
  takes_trans (pop_takes first) (pop_takes second)

namespace BodyState

lemma materialize_advances (state : BodyState) (select : Nat → Operand → Bool) :
    Advances state (state.materialize select) (state.stack.materialize select).1 :=
  ⟨rfl, emit_label _ _, emit_skipped _ _⟩

def assigned (state : BodyState) (index : Nat) (operand : Operand) : BodyState :=
  let state := state.materialize fun _ other => other == .local index
  if operand == .local index then state else state.act (.setLocal index operand)

lemma assigned_advances (state : BodyState) (index : Nat) (operand : Operand) : Advances state (state.assigned index operand)
      ((state.stack.materialize fun _ other => other == .local index).1 ++
        if operand == .local index then [] else [.act (.setLocal index operand)]) := by
  have first := state.materialize_advances fun _ other => other == .local index
  unfold assigned
  split
  · rw [append_nil]
    exact first
  · refine ⟨?_, (emit_label _ _).trans first.label, (emit_skipped _ _).trans first.skipped⟩
    rw [← emit_append]
    exact emit_congr first.frames

lemma assigned_stack (state : BodyState) (index : Nat) (operand : Operand) : (state.assigned index operand).stack
      = (state.stack.materialize fun _ other => other == .local index).2 := by
  unfold assigned
  split
  · rfl
  · exact emit_stack _ _

end BodyState

section Simulation

variable {context : BodyContext} {meaning : Semantics ε S V} (view : View meaning)
  {before after : BodyState} (wellformed : Wellformed context before) (live : before.Live)

include wellformed live

lemma taken_simulates (action : Action) (types : List ValueType) (takes : BodyState.Takes before middle params operands)
    (emitted : action ≠ probe) (task : Task) (place : types = [] ∨ slot = middle.next)
    (acts : ∀ machine, Target.act meaning action machine = machine.perform meaning task slot types.length operands) :
    ∃ code, Simulates context view before ((middle.pushAll types).act action) 0
      (fun config => config.perform meaning task params types.length) code := by
  obtain ⟨enough, rfl, rfl⟩ := takes
  obtain ⟨pushes, frames, label, skipped⟩ := push_all types { before with stack := before.stack.drop params }
  have stack := (emit_stack _ [.act action]).trans pushes
  have settled := settled_drop params _ wellformed.settled
  have size : (before.stack.drop params).length = before.stack.length - params := length_drop
  refine ⟨_, straight_simulates view _ _ wellformed live
    ⟨emit_congr frames, (emit_label _ _).trans label, (emit_skipped _ _).trans skipped⟩ ?_ ?_ ?_ ?_⟩
  all_goals simp only [act, stack]
  · rw [pushed_length, size]
    omega
  · exact pushed_settled types settled
  · exact pushed_fixed types (fixed_drop params _ wellformed.fixed)
  · intro machine
    have operands : (before.config meaning machine).top params = (before.stack.top params).map (machine.read meaning) :=
      (top_values meaning machine params before.stack).symm
    have reached : ¬ (before.config meaning machine).stack.length < params := by
      rw [config, values_length]
      omega
    simp only [Config.perform, if_neg reached, operands, View.Leads, view.watch_act action _ emitted, acts, Machine.perform]
    rw [show (before.config meaning machine).store = machine.store from rfl]
    cases result : meaning.perform task types.length ((before.stack.top params).map (machine.read meaning)) machine.store with
    | error error store =>
      exact .inr ⟨error, { machine with store := store }, rfl, rfl⟩
    | ok values store =>
      have count : values.toList.length = types.length := Vector.length_toList
      have assigned : machine.assign slot values.toList = machine.assign (before.stack.drop params).length values.toList := by
        rcases place with none | same
        · have empty := count.trans (congrArg length none)
          rw [eq_nil_of_length_eq_zero empty, assign_nil, assign_nil]
        · rw [same, BodyState.next]
      refine .inl ⟨{ machine.assign slot values.toList with store := store }, rfl, ?_⟩
      have results := pushed_values meaning machine settled count
      simp only [config, stack, Result.next.injEq, Config.mk.injEq]
      refine ⟨?_, rfl, trivial⟩
      rw [← values_drop, ← results, assigned]
      rfl

lemma unary_simulates (make : Operand → Computation) (tasks : ∀ a, (make a).task = task ∧ (make a).operands = [a])
    (done : before.unary type make = .ok after) :
    ∃ code, Simulates context view before after 0 (fun config => config.perform meaning task 1 1) code := by
  obtain ⟨⟨a, middle⟩, first, done⟩ := bind_ok done
  cases done
  refine taken_simulates view wellformed live (.compute _ _) [type] (pop_takes first) nofun task (.inr rfl) fun machine => ?_
  rw [Target.act, (tasks _).1, (tasks _).2]
  rfl

lemma binary_simulates {make : Operand → Operand → Computation}
    (tasks : ∀ a b, (make a b).task = task ∧ (make a b).operands = [a, b]) (done : before.binary type make = .ok after) :
    ∃ code, Simulates context view before after 0 (fun config => config.perform meaning task 2 1) code := by
  obtain ⟨⟨b, middle⟩, first, done⟩ := bind_ok done
  obtain ⟨⟨a, last⟩, second, done⟩ := bind_ok done
  cases done
  refine taken_simulates view wellformed live (.compute _ _) [type] (pop_two_takes first second) nofun task (.inr rfl) fun machine => ?_
  rw [Target.act, (tasks _ _).1, (tasks _ _).2]
  rfl

lemma nullary_simulates (none : value.operands = []) :
    ∃ code, Simulates context view before (before.nullary type value) 0
      (fun config => config.perform meaning value.task 0 1) code := by
  have takes := takes_none (wellformed_low wellformed)
  refine taken_simulates view wellformed live (.compute _ _) [type] takes nofun value.task (.inr rfl) fun machine => ?_
  rw [Target.act, none]
  rfl

lemma effect2_simulates {make : Operand → Operand → Action} (emitted : ∀ a b, make a b ≠ probe)
    (acts : ∀ a b machine, Target.act meaning (make a b) machine = machine.perform meaning task 0 0 [a, b])
    (done : before.effect2 make = .ok after) :
    ∃ code, Simulates context view before after 0 (fun config => config.perform meaning task 2 0) code := by
  obtain ⟨⟨b, middle⟩, first, done⟩ := bind_ok done
  obtain ⟨⟨a, last⟩, second, done⟩ := bind_ok done
  cases done
  exact taken_simulates view wellformed live _ [] (pop_two_takes first second) (emitted _ _) task (.inl rfl) (acts _ _)

lemma effect3_simulates {make : Operand → Operand → Operand → Action} (emitted : ∀ a b c, make a b c ≠ probe)
    (acts : ∀ a b c machine, Target.act meaning (make a b c) machine = machine.perform meaning task 0 0 [a, b, c])
    (done : before.effect3 make = .ok after) :
    ∃ code, Simulates context view before after 0 (fun config => config.perform meaning task 3 0) code := by
  obtain ⟨⟨c, middle⟩, first, done⟩ := bind_ok done
  obtain ⟨⟨b, last⟩, second, done⟩ := bind_ok done
  obtain ⟨⟨a, final⟩, third, done⟩ := bind_ok done
  cases done
  have takes := takes_trans (pop_two_takes first second) (pop_takes third)
  exact taken_simulates view wellformed live _ [] takes (emitted _ _ _) task (.inl rfl) (acts _ _ _)

lemma call_simulates (takes : BodyState.Takes before middle callee.operands.length callee.operands)
    (done : middle.call callee signature = .ok after) : ∃ code, Simulates context view before after 0
      (fun config => config.perform meaning callee.task
        (callee.operands.length + signature.params.length) signature.results.length) code := by
  obtain ⟨⟨args, last⟩, first, done⟩ := bind_ok done
  cases done
  have all := takes_trans takes (pop_many_takes middle args first (takes_low takes))
  exact taken_simulates view wellformed live (.call _ _ _ _) signature.results all nofun callee.task (.inr rfl) fun machine => rfl

lemma silent_simulates (run : Config S V → Result ε S V) (frames : after.frames = before.frames)
    (label : after.nextLabel = before.nextLabel) (skipped : after.skipped = before.skipped)
    (low : before.height ≤ after.stack.length) (settled : after.stack.Settled) (fixed : after.stack.Fixed before.height)
    (same : ∀ machine, run (before.config meaning machine) = .next (after.config meaning machine)) :
    ∃ code, Simulates context view before after 0 run code :=
  ⟨[], straight_simulates view run [] wellformed live ⟨frames.trans before.emit_nil.symm, label, skipped⟩ low settled fixed fun machine =>
      .inl ⟨machine, view.leads_nil machine, same machine⟩⟩

lemma deferred_simulates (run : Config S V → Result ε S V) (type : ValueType) (operand : Operand)
    (own : ∀ slot, operand = .slot slot → slot = before.stack.length) (same : ∀ machine, run (before.config meaning machine)
      = .next ((before.config meaning machine).push (machine.read meaning operand))) :
    ∃ code, Simulates context view before (before.pushEntry ⟨type, some operand⟩) 0 run code := by
  have low := wellformed_low wellformed
  refine silent_simulates view wellformed live run rfl rfl rfl ?_ ?_ ?_ same
  · exact Nat.le_succ_of_le low
  · refine ⟨?_, wellformed.settled⟩
    intro slot deferred
    exact own slot (Option.some.inj deferred)
  · exact ⟨fun high => absurd high (Nat.not_lt.mpr low), wellformed.fixed⟩

lemma drop_simulates (done : before.pop = .ok (taken, after)) : ∃ code, Simulates context view before after 0
      (fun config => config.pop fun _ config => .next config) code := by
  obtain ⟨entry, rest, stack, high, _, moved⟩ := pop_ok done
  subst moved
  have settled := wellformed.settled
  have fixed := wellformed.fixed
  rw [stack] at settled fixed
  refine silent_simulates view wellformed live _ rfl rfl rfl high settled.2 fixed.2 ?_
  intro machine
  simp only [config, stack]
  rfl

lemma retyped_simulates (type : ValueType) (stack : before.stack = entry :: rest)
    (same : ∀ config : Config S V, 0 < config.stack.length → run config = .next config) : ∃ code, Simulates context view before
      { before with stack := { entry with type := type } :: rest } 0 run code := by
  have low := wellformed_low wellformed
  have settled := wellformed.settled
  have fixed := wellformed.fixed
  rw [stack] at low settled fixed
  refine silent_simulates view wellformed live run rfl rfl rfl low settled fixed ?_
  intro machine
  have positive : 0 < (before.config meaning machine).stack.length := by
    rw [config, values_length, stack]
    exact Nat.succ_pos _
  rw [same _ positive]
  simp only [config, stack]
  rfl

lemma local_set_simulates (index : Nat) (done : before.pop = .ok (taken, middle)) :
    ∃ code, Simulates context view before (middle.assigned index taken.operand) 0
      (fun config => config.pop fun value config => .next (config.setLocal index value)) code := by
  obtain ⟨entry, rest, stack, high, same, moved⟩ := pop_ok done
  have settled := wellformed.settled
  have fixed := wellformed.fixed
  rw [stack] at settled fixed
  subst moved same
  have advances := assigned_advances { before with stack := rest } index (entry.operand rest.length)
  have left := assigned_stack { before with stack := rest } index (entry.operand rest.length)
  refine ⟨_, straight_simulates view _ _ wellformed live
    ⟨advances.frames.trans (emit_congr rfl), advances.label, advances.skipped⟩ ?_ ?_ ?_ ?_⟩
  · rw [left, materialize_length]
    exact high
  · rw [left]
    exact materialize_settled _ settled.2
  · rw [left]
    exact materialize_fixed _ fixed.2
  · intro machine
    obtain ⟨last, leads, locals, store, values⟩ := set_local_leads view index settled machine
    refine .inl ⟨last, leads, ?_⟩
    simp only [config, left, stack, values, locals, store]
    rfl

lemma local_tee_simulates (type : ValueType) (done : before.pop = .ok (taken, middle)) :
    ∃ code, Simulates context view before
      ((middle.assigned index taken.operand).pushEntry ⟨type, some (.local index)⟩) 0 (fun config =>
        config.pop fun value config => .next ((config.push value).setLocal index value)) code := by
  obtain ⟨code, set⟩ := local_set_simulates view wellformed live index done
  have reached : (middle.assigned index taken.operand).Live := by
    apply advances_live _ (middle.assigned_advances index taken.operand)
    rw [(pop_takes done).moved]
    exact live
  obtain ⟨more, get⟩ := deferred_simulates view set.wellformed reached
    (fun config => .next (config.push (config.locals index))) type (.local index) nofun fun machine => rfl
  refine ⟨code ++ more, ?_⟩
  have both := simulates_trans set get
  have same : (fun config : Config S V => (config.pop fun value config =>
        .next (config.setLocal index value) : Result ε S V).andThen fun config => .next (config.push (config.locals index)))
      = fun config => config.pop fun value config => .next ((config.push value).setLocal index value) := by
    funext config
    unfold Config.pop
    split
    · rfl
    · simp [Result.andThen, Config.push, Config.setLocal]
  rw [← same]
  exact both

lemma placed_simulates (type : ValueType) (low : before.height ≤ rest.length) (settled : rest.Settled)
    (fixed : rest.Fixed before.height) (stack : after.stack = ⟨type, none⟩ :: rest) (advances : Advances before after code)
    (does : ∀ machine, ∃ value, view.Leads code machine (machine.setSlot rest.length value) ∧ run (before.config meaning machine)
        = .next ⟨value :: rest.values meaning machine, machine.locals, machine.store⟩) :
    Simulates context view before after 0 run code := by
  apply straight_simulates view run code wellformed live advances
  · rw [stack]
    exact Nat.le_succ_of_le low
  · rw [stack]
    exact ⟨nofun, settled⟩
  · rw [stack]
    exact ⟨fun _ => rfl, fixed⟩
  · intro machine
    obtain ⟨value, leads, same⟩ := does machine
    refine .inl ⟨_, leads, ?_⟩
    rw [same, config, stack, set_slot_values meaning machine type value settled]
    rfl

omit wellformed live in
lemma constant_operand (constant : taken.constant? = some value) : taken.operand = .atom (.i32 value) := by
  unfold Taken.constant? at constant
  split at constant
  · cases constant
    rfl
  · cases constant

omit wellformed live in
lemma first_leads (slot : Nat) (operand : Operand) (machine : Machine S V) : (if operand == .slot slot then Target.Arms.none
      else .otherwise (.ofList [.act (.setSlot slot operand)])).watch view.seen view.rounds none machine
      = .ok (.next, none) (machine.setSlot slot (machine.read meaning operand)) := by
  by_cases inPlace : operand = .slot slot
  · rw [if_pos (beq_iff_eq.mpr inPlace), inPlace, Machine.read, set_slot_self]
    rfl
  · rw [if_neg (by simp [inPlace])]
    exact view.leads_act _ _ _ (by intro same; cases same) rfl

lemma select_simulates (done : before.select = .ok after) : ∃ code, Simulates context view before after 0
      (fun config => config.pop fun condition config => config.pop fun second config => config.pop fun first config =>
          .next (config.push (if meaning.word condition = 0 then second else first))) code := by
  obtain ⟨⟨condition, top⟩, first, done⟩ := bind_ok done
  obtain ⟨⟨b, middle⟩, second, done⟩ := bind_ok done
  obtain ⟨⟨a, bottom⟩, third, done⟩ := bind_ok done
  obtain ⟨c, upper, stack, _, tested, moved⟩ := pop_ok first
  subst moved
  obtain ⟨d, lower, deeper, _, other, moved⟩ := pop_ok second
  subst moved
  obtain ⟨e, rest, deepest, low, one, moved⟩ := pop_ok third
  subst moved
  have shape : before.stack = c :: d :: e :: rest := stack.trans (congrArg _ (Eq.trans deeper (congrArg _ deepest)))
  have settled := wellformed.settled
  have fixed := wellformed.fixed
  rw [shape] at settled fixed
  have chosen : ∀ machine, (before.config meaning machine).pop (fun condition config =>
      config.pop fun second config => config.pop fun first config =>
        .next (config.push (if meaning.word condition = 0 then second else first)))
      = (.next ⟨(if meaning.word (machine.read meaning condition.operand) = 0
          then machine.read meaning b.operand else machine.read meaning a.operand)
            :: values meaning machine rest, machine.locals, machine.store⟩ : Result ε S V) := by
    intro machine
    have upperLength : upper = d :: e :: rest := Eq.trans deeper (congrArg _ deepest)
    have lowerLength : lower = e :: rest := deepest
    rw [tested, other, one, upperLength, lowerLength]
    simp only [config, shape]
    rfl
  simp only [] at done
  split at done
  · rename_i value constant
    have word : ∀ machine : Machine S V, meaning.word (machine.read meaning condition.operand) = value := by
      intro machine
      rw [constant_operand constant]
      exact meaning.word_constant value
    by_cases zero : value = 0
    · subst zero
      simp only [bne_self_eq_false, Bool.false_eq_true, if_false] at done
      cases done
      split
      · rename_i test
        have inPlace : b.operand = .slot rest.length := beq_iff_eq.mp test
        refine ⟨[], placed_simulates view wellformed live a.type low settled.2.2.2 fixed.2.2.2 rfl ⟨before.emit_nil.symm, rfl, rfl⟩ ?_⟩
        intro machine
        refine ⟨_, ?_, chosen machine⟩
        rw [word, if_pos rfl, inPlace, Machine.read, set_slot_self]
        exact view.leads_nil machine
      · refine ⟨_, placed_simulates view wellformed live a.type low settled.2.2.2 fixed.2.2.2 (emit_stack _ _) ⟨emit_congr rfl,
            emit_label _ _, emit_skipped _ _⟩ ?_⟩
        intro machine
        refine ⟨_, ?_, chosen machine⟩
        rw [word, if_pos rfl]
        exact view.leads_act _ _ _ (by intro same; cases same) rfl
    · simp only [bne_iff_ne, ne_eq, zero, not_false_eq_true, if_true] at done
      cases done
      refine silent_simulates view wellformed live _ rfl rfl rfl ?_ ?_ ?_ ?_
      · exact Nat.le_succ_of_le low
      · refine ⟨?_, settled.2.2.2⟩
        intro slot deferred
        rw [one] at deferred
        exact operand_slot slot settled.2.2.1 (Option.some.inj deferred)
      · exact ⟨fun high => absurd high (Nat.not_lt.mpr low), fixed.2.2.2⟩
      · intro machine
        rw [chosen, word, if_neg zero]
        rfl
  · cases done
    refine ⟨_, placed_simulates view wellformed live a.type low settled.2.2.2 fixed.2.2.2 (emit_stack _ _) ⟨emit_congr rfl,
        emit_label _ _, emit_skipped _ _⟩ ?_⟩
    intro machine
    refine ⟨_, ?_, chosen machine⟩
    rw [View.Leads, View.watch_test, Machine.holds]
    by_cases zero : meaning.word (machine.read meaning condition.operand) = 0
    · rw [if_pos (beq_iff_eq.mpr zero), if_pos zero]
      exact view.leads_act _ _ _ (by intro same; cases same) rfl
    · rw [if_neg (by simp [zero]), if_neg zero]
      exact first_leads view rest.length a.operand machine

end Simulation

end WasmLua.Compile
