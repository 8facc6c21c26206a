import WasmLua.Proofs.Body.Blocks

namespace WasmLua.Compile

open Frame
open Target (Exit Flag Machine Operand Stmt)
open Wasm (Code Config Instruction Result Semantics Signature)

variable {ε S V : Type}

def Frame.holding (frame : Frame) (code : List Stmt) : Frame := { frame with code := code.reverse }

variable {meaning : Semantics ε S V} {view : View meaning} {machine last : Machine S V}
  {outer others around : List Frame} {result : Result ε S V} {frame parent : Frame}
  {context : BodyContext} {before start opened after first second : BodyState} {type : Signature}
  {condition : Taken} {enter leave : List Stmt}

lemma watch_behind {first second : List Stmt} (leads : view.Leads first machine last) :
    view.watch (first ++ second) none machine = view.watch second none last := by
  unfold View.Leads at leads
  rw [view.watch_append, leads]
  rfl

lemma ready_lands (frame : Frame) (widens : frame.Widens final)
    (wider : List.Forall₂ Frame.Widens outer others) (continues : frame.unreachable = false → final.continues = true)
    (ends : Matches (frame :: outer) frame.Ready result output) : Matches (final :: others) final.Lands result output := by
  refine matches_widens _ _ (.cons widens wider) ?_ ends
  intro config machine _ ready
  obtain ⟨reached, same⟩ := ready
  refine ⟨continues reached, ?_⟩
  rw [same, widens.height, widens.results]

lemma Frame.reached_continues (reached : frame.unreachable = false) : frame.continues = true := by
  simp [continues, reached]

variable {opening : Instruction}

lemma enter_config (meaning : Semantics ε S V) (machine : Machine S V)
    (known : opening.blockType? context.scope = some type)
    (enough : type.params.length ≤ before.stack.length) :
    Code.enter context.unit opening (before.config meaning machine) inside
      = inside type (before.stack.length - type.params.length) := by
  have length : (before.config meaning machine).stack.length = before.stack.length :=
    ValueStack.values_length meaning machine before.stack
  have type? : opening.blockType? context.unit.scope = some type := known
  rw [Code.enter, type?]
  simp only [length, if_neg (Nat.not_lt.mpr enough)]

lemma condition_kept (meaning : Semantics ε S V) (popped : start.pop = .ok (condition, before))
    (settled : start.stack.Settled) (locals : last.locals = machine.locals)
    (slots : ∀ slot, before.stack.length ≤ slot → last.slots slot = machine.slots slot) :
    last.read meaning condition.operand = machine.read meaning condition.operand := by
  obtain ⟨entry, rest, stack, _, same, moved⟩ := BodyState.pop_ok popped
  rw [stack] at settled
  rw [same]
  apply ValueStack.read_congr meaning machine last settled.1
  · exact slots _ (Nat.le_of_eq (by rw [moved]))
  · exact fun index _ => congrFun locals index

structure Wraps (context : BodyContext) {meaning : Semantics ε S V} (view : View meaning)
    (before opened inner after : BodyState) (type : Signature) (frame parent : Frame)
    (others : List Frame) (enter leave : List Stmt) : Prop where
  enough : type.params.length ≤ before.stack.length
  height : frame.height = before.stack.length - type.params.length
  params : frame.params = type.params
  results : frame.results = type.results
  encloses : Encloses context before.frames inner after frame parent others enter leave
  leads : ∀ machine, ∃ last, view.Leads enter machine last ∧ last.locals = machine.locals ∧
    (∀ slot, before.stack.length ≤ slot → last.slots slot = machine.slots slot) ∧
    frame.entered last = before.config meaning machine
  entered : ∀ machine, opened.config meaning machine = frame.entered machine
  arrives : ∀ (code : List Stmt) (result : Result ε S V) (machine : Machine S V),
    Agrees meaning inner result (view.watch code none machine) →
    Matches (frame :: parent :: others) frame.Ready result (view.watch (code ++ leave) none machine)

lemma wraps_deeper {inner : BodyState} (depth : Nat)
    (wraps : Wraps context view before opened inner after type frame parent others enter leave) :
    Wraps context view before opened inner { after with maxDepth := depth } type frame parent others enter leave :=
  have encloses := wraps.encloses
  have closed := encloses.closed
  have ready := encloses.wellformed
  { wraps with
    encloses := ⟨encloses.frames, encloses.distinct,
      ⟨closed.frames, closed.label, closed.skipped, closed.length, closed.settled, closed.fixed⟩,
      encloses.emits, ⟨ready.nested, ready.settled, ready.fixed, ready.skipped⟩⟩ }

section Wrapped

variable {context : BodyContext} {meaning : Semantics ε S V} {view : View meaning}
  {before opened inner after : BodyState} {type : Signature} {frame parent : Frame} {others : List Frame} {enter leave : List Stmt}
  (wraps : Wraps context view before opened inner after type frame parent others enter leave)
  (run : Config S V → Result ε S V) (code : List Stmt) (follows : Follows view opened inner run code)

include wraps

lemma wrapped_follows {task : Config S V → Result ε S V} (closes : ∀ machine last, last.locals = machine.locals →
      (∀ slot, before.stack.length ≤ slot → last.slots slot = machine.slots slot) → frame.entered last = before.config meaning machine →
      Matches (parent :: others) (frame.holding (code ++ leave)).Lands (task (start.config meaning machine))
        (view.watch (frame.holding (code ++ leave)).close none last)) :
    Follows view start after task (enter ++ (frame.holding (code ++ leave)).close) := by
  intro machine
  obtain ⟨last, leads, locals, slots, same⟩ := wraps.leads machine
  rw [watch_behind leads]
  exact closed_agrees meaning wraps.encloses.closed (closes machine last locals slots same)

include follows

lemma wrapped_ends (machine : Machine S V) : Matches (frame.holding (code ++ leave) :: parent :: others)
      (frame.holding (code ++ leave)).Lands (run ((frame.holding (code ++ leave)).entered machine))
      (view.watch (frame.holding (code ++ leave)).code.reverse none machine) := by
  have agrees := follows machine
  rw [wraps.entered] at agrees
  rw [holding, List.reverse_reverse]
  refine ready_lands frame ⟨rfl, rfl, rfl, rfl, rfl, rfl, id, id, id⟩ (keeps_widens (keeps_all_refl _)) ?_
    (wraps.arrives code _ machine agrees)
  exact fun reached => reached_continues reached

lemma block_follows (known : opening.blockType? context.scope = some type) (kind : frame.kind = .block) :
    Follows view before after (fun config => Code.enter context.unit opening config fun type height =>
        (run config).enclosed type.results.length height) (enter ++ (frame.holding (code ++ leave)).close) := by
  refine wrapped_follows wraps code fun machine last _ _ same => ?_
  rw [enter_config meaning machine known wraps.enough, ← same, ← wraps.height, ← wraps.results]
  exact block_closes (frame.holding (code ++ leave)) wraps.encloses.distinct run (wrapped_ends wraps run code follows) last kind

lemma loop_follows (known : opening.blockType? context.scope = some type)
    (kind : frame.kind = .loop) (positive : 0 < view.rounds) :
    Follows view before after (fun config => Code.enter context.unit opening config fun type height =>
        Wasm.repeated run type.params.length height view.rounds config) (enter ++ (frame.holding (code ++ leave)).close) := by
  refine wrapped_follows wraps code fun machine last _ _ same => ?_
  rw [enter_config meaning machine known wraps.enough, ← same, ← wraps.height, ← wraps.params]
  exact loop_closes (frame.holding (code ++ leave)) wraps.encloses.distinct run (wrapped_ends wraps run code follows) last kind positive

lemma guarded_follows (known : opening.blockType? context.scope = some type)
    (popped : start.pop = .ok (condition, before)) (settled : start.stack.Settled)
    (kind : frame.kind = .conditional condition.operand) (single : frame.thenArm = none)
    (balanced : type.params.length = type.results.length) : Follows view start after
      (fun config => config.pop fun condition config => Code.enter context.unit opening config fun type height =>
          if meaning.word condition = 0 then .next config
          else (run config).enclosed type.results.length height)
      (enter ++ (frame.holding (code ++ leave)).close) := by
  refine wrapped_follows wraps code fun machine last locals slots same => ?_
  have same' : frame.params.length = frame.results.length := by
    rw [wraps.params, wraps.results]
    exact balanced
  rw [config_pop popped, enter_config meaning machine known wraps.enough, ← same, ← wraps.height,
    ← wraps.results, ← condition_kept meaning popped settled locals slots]
  exact guarded_closes (frame.holding (code ++ leave)) wraps.encloses.distinct run (wrapped_ends wraps run code follows)
    last kind single same'

end Wrapped

/-- A conditional of two arms. The second arm is wrapped; the first one has ended in its own frame. -/
structure Splits (context : BodyContext) {meaning : Semantics ε S V} (view : View meaning)
    (before opened first divided second after : BodyState) (type : Signature)
    (left right parent : Frame) (outer others : List Frame) (enter leave more : List Stmt) : Prop where
  wraps : Wraps context view before divided second after type right parent others enter more
  widens : left.Widens right
  wider : List.Forall₂ Frame.Widens outer (parent :: others)
  entered : ∀ machine, opened.config meaning machine = right.entered machine
  arrives : ∀ (code : List Stmt) (result : Result ε S V) (machine : Machine S V),
    Agrees meaning first result (view.watch code none machine) →
    Matches (left :: outer) left.Ready result (view.watch (code ++ leave) none machine)

def Frame.choosing (right left : Frame) (first second : List Stmt) : Frame :=
  { right with thenArm := some (.ofList first, !left.unreachable), code := second.reverse }

variable {divided : BodyState}

lemma conditional_follows (splits : Splits context view before opened first divided second after type left right parent outer
      others enter leave more)
    (known : opening.blockType? context.scope = some type) (popped : start.pop = .ok (condition, before))
    (settled : start.stack.Settled) (kind : right.kind = .conditional condition.operand)
    (reachable : right.thenArm.map Prod.snd = some (!left.unreachable))
    (followsFirst : Follows view opened first runFirst codeFirst)
    (followsSecond : Follows view divided second runSecond codeSecond) : Follows view start after
      (fun config => config.pop fun condition config => Code.enter context.unit opening config fun type height =>
          (if meaning.word condition = 0 then runSecond config else runFirst config).enclosed type.results.length height)
      (enter ++ (right.choosing left (codeFirst ++ leave) (codeSecond ++ more)).close) := by
  intro machine
  have wraps := splits.wraps
  obtain ⟨last, leads, locals, slots, same⟩ := wraps.leads machine
  have starts : ∀ machine, Matches (right.choosing left (codeFirst ++ leave) (codeSecond ++ more)
      :: parent :: others) (right.choosing left (codeFirst ++ leave) (codeSecond ++ more)).Lands
      (runFirst (right.entered machine)) (view.watch (codeFirst ++ leave) none machine) := by
    intro machine
    have agrees := followsFirst machine
    rw [splits.entered] at agrees
    refine ready_lands left (widens_trans _ splits.widens
      ⟨rfl, rfl, rfl, rfl, rfl, rfl, id, id, id⟩) splits.wider ?_ (splits.arrives codeFirst _ machine agrees)
    exact fun reached => by simp [continues, choosing, kind, reached]
  have ends : ∀ machine, Matches (right.choosing left (codeFirst ++ leave) (codeSecond ++ more)
      :: parent :: others) (right.choosing left (codeFirst ++ leave) (codeSecond ++ more)).Lands
      (runSecond (right.entered machine)) (view.watch
        (right.choosing left (codeFirst ++ leave) (codeSecond ++ more)).code.reverse none machine) := by
    intro machine
    have agrees := followsSecond machine
    rw [wraps.entered] at agrees
    rw [choosing, List.reverse_reverse]
    refine ready_lands right ⟨rfl, rfl, rfl, rfl, rfl, rfl, id, id, id⟩ (keeps_widens (keeps_all_refl _))
      ?_ (wraps.arrives codeSecond _ machine agrees)
    exact fun reached => reached_continues reached
  have closes := conditional_closes (right.choosing left (codeFirst ++ leave) (codeSecond ++ more))
    wraps.encloses.distinct runSecond ends last kind rfl runFirst starts
  rw [watch_behind leads]
  apply closed_agrees meaning wraps.encloses.closed
  show Matches _ _ ((start.config meaning machine).pop _) _
  rw [config_pop popped, enter_config meaning machine known wraps.enough, ← same, ← wraps.height,
    ← wraps.results, ← condition_kept meaning popped settled locals slots]
  refine matches_widens _ _ (keeps_widens (keeps_all_refl _)) ?_ closes
  intro config machine _ landed
  refine ⟨?_, landed.2⟩
  obtain ⟨arm, known, same⟩ := Option.map_eq_some_iff.mp reachable
  simpa only [continues, choosing, known, ← same] using landed.1

/-- What is known of a block that has been opened: its type, and how the statements that come before
it lead to its start. -/
structure Starts (context : BodyContext) {meaning : Semantics ε S V} (view : View meaning)
    (before opened : BodyState) (kind : FrameKind) (type : Signature) (fresh : Frame)
    (enter : List Stmt) : Prop where
  enough : type.params.length ≤ before.stack.length
  made : fresh = .opening kind before.nextLabel (before.stack.length - type.params.length) type
    (context.targeted.contains before.nextLabel)
  opens : Opened context before.frames opened fresh enter
  label : opened.nextLabel = before.nextLabel + 1
  leads : ∀ machine, ∃ last, view.Leads enter machine last ∧ last.locals = machine.locals ∧
    (∀ slot, before.stack.length ≤ slot → last.slots slot = machine.slots slot) ∧
    opened.config meaning last = before.config meaning machine

lemma opened_deeper (depth : Nat) (opens : Opened context around opened frame enter) :
    Opened context around { opened with maxDepth := depth } frame enter :=
  have ready := opens.wellformed
  ⟨opens.frames, opens.written, opens.reached, ⟨ready.nested, ready.settled, ready.fixed, ready.skipped⟩, opens.length, opens.fixed⟩

lemma enter_starts (view : View meaning) (kind : FrameKind) (depth : Nat)
    (wellformed : Wellformed context before) (live : before.Live) (inner : kind ≠ .function)
    (done : before.materializeAll.enter context kind opening = .ok opened) :
    ∃ type fresh enter, opening.blockType? context.scope = some type ∧
      Starts context view before { opened with maxDepth := depth } kind type fresh enter := by
  obtain ⟨type, enter, known, enough, opens, label, leads⟩ := enter_opens view wellformed live inner done
  exact ⟨type, _, enter, known, enough, rfl, opened_deeper depth opens, label, leads⟩

lemma opened_live (opens : Opened context around opened frame enter) : opened.Live := by
  obtain ⟨outer, frames, _⟩ := opens.frames
  exact ⟨frame, outer, frames, opens.reached⟩

lemma opened_labels (opens : Opened context around opened frame enter) :
    opened.frames.map (·.label) = frame.label :: around.map (·.label) := by
  obtain ⟨outer, frames, emits⟩ := opens.frames
  rw [frames, List.map_cons, widened_labels (emits_widens emits)]

section Starting

variable {context : BodyContext} {meaning : Semantics ε S V} {view : View meaning}
  {before opened : BodyState} {kind : FrameKind} {type : Signature} {fresh : Frame}
  {enter : List Stmt} (starts : Starts context view before opened kind type fresh enter) (inner : kind ≠ .function)

include starts inner

lemma starts_wraps {last : BodyState} {body : List Stmt} (inside : Emits opened.frames last.frames body)
    (ready : Wellformed context last) (done : last.endBlock = .ok after) : ∃ frame parent others leave,
      Wraps context view before opened last after type frame parent others enter leave ∧
      frame.kind = kind ∧ frame.thenArm = none ∧ frame.code = body.reverse := by
  have made := starts.made
  have outermost : fresh.kind ≠ .function := by
    rw [made]
    exact inner
  obtain ⟨frame, parent, others, leave, encloses, grows, written, arrives⟩ := block_encloses view
    starts.opens inside ready outermost done
  have entered : ∀ machine, opened.config meaning machine = frame.entered machine := by
    intro machine
    rw [opened_config meaning starts.opens, Frame.entered, Frame.entered, grows.height, grows.params]
  refine ⟨frame, parent, others, leave, ⟨starts.enough, ?_, ?_, ?_, encloses, ?_, entered, arrives⟩, ?_, ?_, written⟩
  · rw [grows.height, made]
    rfl
  · rw [grows.params, made]
    rfl
  · rw [grows.results, made]
    rfl
  · intro machine
    obtain ⟨first, leads, locals, slots, same⟩ := starts.leads machine
    exact ⟨first, leads, locals, slots, (entered first).symm.trans same⟩
  · rw [grows.kind, made]
    rfl
  · rw [grows.thenArm, made]
    rfl

lemma starts_splits (insideFirst : Emits opened.frames first.frames bodyFirst) (readyFirst : Wellformed context first)
    (divides : first.elseArm = .ok divided) (depth : Nat) (insideSecond : Emits divided.frames second.frames bodySecond)
    (readySecond : Wellformed context second) (done : second.endBlock = .ok after) : ∃ left right parent outer others leave more,
      Splits context view before opened first { divided with maxDepth := depth } second after type left
        right parent outer others enter leave more ∧
      right.kind = kind ∧ right.code = bodySecond.reverse ∧
      right.thenArm = some (.ofList (bodyFirst ++ leave), !left.unreachable) := by
  have made := starts.made
  have outermost : fresh.kind ≠ .function := by
    rw [made]
    exact inner
  obtain ⟨left, outer, leave, frames, growsLeft, opensRight, opening, label, arrivesLeft⟩ := else_divides
    view starts.opens insideFirst readyFirst divides
  have outermostLeft : (left.divided (bodyFirst ++ leave)).kind ≠ .function := by
    show left.kind ≠ .function
    rw [growsLeft.kind]
    exact outermost
  obtain ⟨right, parent, others, more, encloses, growsRight, written, arrivesRight⟩ := block_encloses view
    opensRight insideSecond readySecond outermostLeft done
  -- The frame of the second arm is that of the first, with the branches of both.
  have widens : left.Widens right :=
    widens_trans (left.divided (bodyFirst ++ leave)) ⟨rfl, rfl, rfl, rfl, rfl, rfl, id, id, id⟩ growsRight.toWidens
  have grown := widens_trans _ growsLeft.toWidens widens
  have entered : ∀ machine, opened.config meaning machine = right.entered machine := by
    intro machine
    rw [opened_config meaning starts.opens, Frame.entered, Frame.entered, grown.height, grown.params]
  have again : ∀ machine, divided.config meaning machine = right.entered machine := by
    intro machine
    rw [opened_config meaning opensRight, Frame.entered, Frame.entered, growsRight.height, growsRight.params]
  obtain ⟨_, _, _, _, same, shape, _, _, kept⟩ := emits_split insideSecond
  rw [opening] at same
  rw [encloses.frames] at shape
  cases same
  cases shape
  refine ⟨left, right, parent, outer, others, leave, more, ⟨⟨starts.enough, ?_, ?_, ?_, encloses, ?_,
    again, arrivesRight⟩, widens, keeps_widens kept, entered, frames ▸ arrivesLeft⟩, ?_, written, growsRight.thenArm⟩
  · rw [grown.height, made]
    rfl
  · rw [grown.params, made]
    rfl
  · rw [grown.results, made]
    rfl
  · intro machine
    obtain ⟨last, leads, locals, slots, same⟩ := starts.leads machine
    exact ⟨last, leads, locals, slots, (entered last).symm.trans same⟩
  · rw [grown.kind, made]
    rfl

end Starting

end WasmLua.Compile
