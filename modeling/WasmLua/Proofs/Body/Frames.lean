import WasmLua.Compile.Body
import WasmLua.Proofs.Body.Slots

namespace WasmLua.Compile

open List
open Target (Exit Flag Machine Stmt)
open Wasm (Config Result Semantics)

variable {ε S V : Type}

structure Frame.Widens (first second : Frame) : Prop where
  kind : second.kind = first.kind
  label : second.label = first.label
  height : second.height = first.height
  params : second.params = first.params
  results : second.results = first.results
  lowered : second.lowered = first.lowered
  flagSelf : first.flagSelf = true → second.flagSelf = true
  escapes : first.escapes = true → second.escapes = true
  branched : first.branched = true → second.branched = true

structure Frame.Grows (first second : Frame) : Prop extends Frame.Widens first second where
  thenArm : second.thenArm = first.thenArm

structure Frame.Keeps (first second : Frame) : Prop extends Frame.Grows first second where
  code : second.code = first.code
  unreachable : second.unreachable = first.unreachable

lemma Frame.widens_refl (frame : Frame) : frame.Widens frame := ⟨rfl, rfl, rfl, rfl, rfl, rfl, id, id, id⟩

variable {third : Frame} {first second frames : List Frame} {code more : List Stmt} {context : BodyContext} {result : Result ε S V}
  {output : EStateM.Result ε (Machine S V) (Exit (List V) × Flag)} {after before middle : BodyState}
  {meaning : Semantics ε S V} {view : View meaning} {blocks : Nat}

lemma Frame.widens_trans {first : Frame} (second : Frame) (before : first.Widens second)
    (after : second.Widens third) : first.Widens third where
  kind := after.kind.trans before.kind
  label := after.label.trans before.label
  height := after.height.trans before.height
  params := after.params.trans before.params
  results := after.results.trans before.results
  lowered := after.lowered.trans before.lowered
  flagSelf := after.flagSelf ∘ before.flagSelf
  escapes := after.escapes ∘ before.escapes
  branched := after.branched ∘ before.branched

lemma Frame.grows_trans {first second : Frame} (before : first.Grows second) (after : second.Grows third) : first.Grows third :=
  ⟨Frame.widens_trans _ before.toWidens after.toWidens, after.thenArm.trans before.thenArm⟩

lemma Frame.keeps_refl (frame : Frame) : frame.Keeps frame := ⟨⟨frame.widens_refl, rfl⟩, rfl, rfl⟩

lemma Frame.keeps_trans {first second : Frame} (before : first.Keeps second) (after : second.Keeps third) : first.Keeps third :=
  ⟨Frame.grows_trans before.toGrows after.toGrows, after.code.trans before.code, after.unreachable.trans before.unreachable⟩

lemma Frame.Widens.isLoop {first second : Frame} (widens : first.Widens second) : second.isLoop = first.isLoop := by
  unfold Frame.isLoop
  rw [widens.kind]

lemma Frame.Widens.arity {first second : Frame} (widens : first.Widens second) : second.arity = first.arity := by
  unfold Frame.arity
  rw [widens.isLoop, widens.params, widens.results]

inductive Emits : List Frame → List Frame → List Stmt → Prop where
  | intro (frame after : Frame) (outer others : List Frame) (code : List Stmt)
      (grows : frame.Grows after) (written : after.code = code.reverse ++ frame.code)
      (kept : List.Forall₂ Frame.Keeps outer others) :
      Emits (frame :: outer) (after :: others) code

lemma emits_split (emits : Emits first second code) :
    ∃ frame after outer others, first = frame :: outer ∧ second = after :: others ∧
      frame.Grows after ∧ after.code = code.reverse ++ frame.code ∧ List.Forall₂ Frame.Keeps outer others := by
  cases emits with
  | intro frame after outer others _ grows written kept =>
    exact ⟨frame, after, outer, others, rfl, rfl, grows, written, kept⟩

lemma keeps_all_refl (frames : List Frame) : List.Forall₂ Frame.Keeps frames frames := by
  induction frames with
  | nil => exact .nil
  | cons frame rest ih => exact .cons frame.keeps_refl ih

lemma keeps_all_trans (third : List Frame) (before : List.Forall₂ Frame.Keeps first second)
    (after : List.Forall₂ Frame.Keeps second third) : List.Forall₂ Frame.Keeps first third := by
  induction before generalizing third with
  | nil => exact after
  | cons here rest ih =>
    cases after with
    | cons next more => exact .cons (Frame.keeps_trans here next) (ih _ more)

lemma emits_trans {third : List Frame} (before : Emits first second code)
    (after : Emits second third more) : Emits first third (code ++ more) := by
  cases before with
  | intro frame middle outer others _ grows written kept =>
    cases after with
    | intro _ last _ rest _ grown wrote keeps =>
      refine .intro _ _ _ _ _ (Frame.grows_trans grows grown) ?_ (keeps_all_trans _ kept keeps)
      rw [wrote, written, reverse_append, append_assoc]

lemma keeps_widens (keeps : List.Forall₂ Frame.Keeps first second) : List.Forall₂ Frame.Widens first second :=
  keeps.imp fun _ _ here => here.toWidens

lemma emits_widens (emits : Emits first second code) : List.Forall₂ Frame.Widens first second := by
  cases emits with
  | intro frame after outer others _ grows written kept =>
    exact .cons grows.toWidens (keeps_widens kept)

/-- Open blocks with a stack of the given height above them, when `next` is the next label. -/
inductive Nested (context : BodyContext) : List Frame → Nat → Nat → Prop where
  | function (frame : Frame) (height next : Nat) (kind : frame.kind = .function)
      (label : frame.label = 0) (low : frame.height = 0) (plain : frame.lowered = false)
      (results : frame.results = context.results) (positive : 0 < next) :
      Nested context [frame] height next
  | inside (frame : Frame) (outer : List Frame) (height next : Nat) (kind : frame.kind ≠ .function)
      (positive : 0 < frame.label) (label : frame.label < next) (low : frame.height ≤ height)
      (lowered : frame.lowered = context.targeted.contains frame.label)
      (around : Nested context outer frame.height frame.label) :
      Nested context (frame :: outer) height next

lemma nested_above (context : BodyContext) (height next : Nat) {more later : Nat}
    (nested : Nested context frames height next) (above : ∀ frame ∈ frames.head?, frame.height ≤ more)
    (after : next ≤ later) : Nested context frames more later := by
  cases nested with
  | function frame _ _ kind label low plain results positive =>
    exact .function frame more later kind label low plain results (by omega)
  | inside frame outer _ _ kind positive label low lowered around =>
    exact .inside frame outer more later kind positive (by omega) (above frame rfl) lowered around

variable {height next : Nat}

lemma nested_widens (first second : List Frame)
    (widens : List.Forall₂ Frame.Widens first second) (nested : Nested context first height next) :
    Nested context second height next := by
  induction nested generalizing second with
  | function frame height next kind label low plain results positive =>
    cases widens with
    | cons here rest =>
      cases rest with
      | nil =>
        exact .function _ height next (here.kind.trans kind) (here.label.trans label)
          (here.height.trans low) (here.lowered.trans plain) (here.results.trans results) positive
  | inside frame outer height next kind positive label low lowered around ih =>
    cases widens with
    | @cons _ after _ others here rest =>
      have outside := ih others rest
      rw [← here.height, ← here.label] at outside
      refine .inside after others height next ?_ ?_ ?_ ?_ ?_ outside
      · rw [here.kind]
        exact kind
      · rw [here.label]
        exact positive
      · rw [here.label]
        exact label
      · rw [here.height]
        exact low
      · rw [here.lowered, here.label]
        exact lowered

lemma nested_bounds (nested : Nested context frames height next) (frame : Frame)
    (member : frame ∈ frames) : frame.label < next ∧ frame.height ≤ height := by
  induction nested with
  | function found height next kind label low plain results positive =>
    rw [mem_singleton.mp member, label, low]
    exact ⟨positive, Nat.zero_le height⟩
  | inside found outer height next kind positive label low lowered around ih =>
    rcases mem_cons.mp member with here | later
    · rw [here]
      exact ⟨label, low⟩
    · exact ⟨Nat.lt_trans (ih later).1 label, Nat.le_trans (ih later).2 low⟩

lemma nested_emits (nested : Nested context frames height next) : Emits frames frames [] := by
  cases nested <;> exact .intro _ _ _ _ [] ⟨Frame.widens_refl _, rfl⟩ rfl (keeps_all_refl _)

namespace BodyState

def Live (state : BodyState) : Prop := ∃ frame outer, state.frames = frame :: outer ∧ frame.unreachable = false

def config (meaning : Semantics ε S V) (state : BodyState) (machine : Machine S V) : Config S V :=
  ⟨state.stack.values meaning machine, machine.locals, machine.store⟩

end BodyState

structure Wellformed (context : BodyContext) (state : BodyState) : Prop where
  nested : Nested context state.frames state.stack.length state.nextLabel
  settled : state.stack.Settled
  fixed : state.stack.Fixed state.height
  skipped : state.skipped = 0

/-- The flag with which a branch leaves the innermost block. It is not set when the target is the
next block that can be left; otherwise every block on the way passes it on. -/
def Signals (frames : List Frame) (depth : Nat) (target : Frame) : Flag → Prop
  | none =>
    target.isLoop = false ∧ target.branched = true ∧ ∀ frame ∈ frames.take depth, frame.lowered = false
  | some label =>
    label = target.label ∧ target.flagSelf = true ∧ (target.isLoop = false → target.branched = true) ∧
      ∀ frame ∈ frames.take depth, frame.lowered = true → frame.escapes = true

/-- Statements end as structured code does, behind code in the given blocks; `Arrives` says what
holds when both go on. -/
inductive Matches (frames : List Frame) (Arrives : Config S V → Machine S V → Prop) :
    Result ε S V → EStateM.Result ε (Machine S V) (Exit (List V) × Flag) → Prop where
  | next (config : Config S V) (machine : Machine S V) (arrives : Arrives config machine) :
      Matches frames Arrives (.next config) (.ok (.next, none) machine)
  | branch (depth : Nat) (config : Config S V) (machine : Machine S V) (flag : Flag) (target : Frame)
      (found : frames[depth]? = some target) (inner : target.kind ≠ .function)
      (lowered : target.lowered = true) (signals : Signals frames depth target flag)
      (enough : target.arity + target.height ≤ config.stack.length)
      (landed : config.unwind target.arity target.height = ⟨held machine (target.height + target.arity), machine.locals, machine.store⟩) :
      Matches frames Arrives (.branch depth config) (.ok (.left, flag) machine)
  | outermost (depth : Nat) (config : Config S V) (machine : Machine S V) (target : Frame)
      (found : frames[depth]? = some target) (outer : target.kind = .function)
      (enough : target.arity ≤ config.stack.length) (store : machine.store = config.store) :
      Matches frames Arrives (.branch depth config)
        (.ok (.finished (config.top target.arity), none) machine)
  | returned (values : List V) (machine : Machine S V) :
      Matches frames Arrives (.returned values machine.store) (.ok (.finished values, none) machine)
  | trapped (error : ε) (machine : Machine S V) :
      Matches frames Arrives (.trapped error machine.store) (.error error machine)
  | unfinished (machine : Machine S V) (flag : Flag) :
      Matches frames Arrives (.unfinished machine.store) (.ok (.unfinished, flag) machine)

def Agrees (meaning : Semantics ε S V) (state : BodyState) : Result ε S V → EStateM.Result ε (Machine S V) (Exit (List V) × Flag) → Prop :=
  Matches state.frames fun config machine => state.Live ∧ config = state.config meaning machine

section

variable (widens : List.Forall₂ Frame.Widens first second)

include widens

lemma widened_frame (depth : Nat)
    (found : first[depth]? = some frame) : ∃ after, second[depth]? = some after ∧ frame.Widens after := by
  induction widens generalizing depth with
  | nil => cases found
  | cons here rest ih =>
    cases depth with
    | zero =>
      cases found
      exact ⟨_, rfl, here⟩
    | succ depth => exact ih depth found

lemma widened_member (after : Frame)
    (member : after ∈ second) : ∃ frame ∈ first, frame.Widens after := by
  induction widens with
  | nil => cases member
  | cons here rest ih =>
    rcases mem_cons.mp member with top | later
    · subst top
      exact ⟨_, mem_cons_self, here⟩
    · obtain ⟨frame, inside, grown⟩ := ih later
      exact ⟨frame, mem_cons_of_mem _ inside, grown⟩

lemma widened_labels : second.map (·.label) = first.map (·.label) := by
  induction widens with
  | nil => rfl
  | cons here rest ih => rw [map_cons, map_cons, here.label, ih]

lemma signals_widens {depth : Nat}
    {target after : Frame} (wider : target.Widens after) {flag : Flag}
    (signals : Signals first depth target flag) : Signals second depth after flag := by
  have passed : ∀ frame ∈ second.take depth, ∃ before ∈ first.take depth, before.Widens frame :=
    widened_member (forall₂_take depth widens)
  cases flag with
  | none =>
    obtain ⟨straight, branched, plain⟩ := signals
    refine ⟨wider.isLoop.trans straight, wider.branched branched, ?_⟩
    intro frame member
    obtain ⟨before, inside, more⟩ := passed frame member
    exact more.lowered.trans (plain before inside)
  | some label =>
    obtain ⟨named, flagged, branched, escapes⟩ := signals
    refine ⟨named.trans wider.label.symm, wider.flagSelf flagged, ?_, ?_⟩
    · rw [wider.isLoop]
      exact fun straight => wider.branched (branched straight)
    · intro frame member lowered
      obtain ⟨before, inside, more⟩ := passed frame member
      exact more.escapes (escapes before inside (more.lowered.symm.trans lowered))

end

lemma matches_widens (second : List Frame) (Arrives : Config S V → Machine S V → Prop)
    {Reaches : Config S V → Machine S V → Prop} (widens : List.Forall₂ Frame.Widens first second)
    (arrives : ∀ config machine, result = .next config → Arrives config machine →
      Reaches config machine) (ends : Matches first Arrives result output) : Matches second Reaches result output := by
  cases ends with
  | next config machine arrived => exact .next config machine (arrives config machine rfl arrived)
  | branch depth config machine flag target found inner lowered signals enough landed =>
    obtain ⟨after, access, wider⟩ := widened_frame widens depth found
    rw [← wider.arity, ← wider.height] at enough landed
    refine .branch depth config machine flag after access ?_ ?_ ?_ enough landed
    · rw [wider.kind]
      exact inner
    · exact wider.lowered.trans lowered
    · exact signals_widens widens wider signals
  | outermost depth config machine target found outer enough store =>
    obtain ⟨after, access, wider⟩ := widened_frame widens depth found
    rw [← wider.arity] at enough ⊢
    exact .outermost depth config machine after access (wider.kind.trans outer) enough store
  | returned | trapped | unfinished => constructor

lemma agrees_widens (meaning : Semantics ε S V) {first second : BodyState}
    (widens : List.Forall₂ Frame.Widens first.frames second.frames)
    (stops : ∀ config, result ≠ .next config) (agrees : Agrees meaning first result output) :
    Agrees meaning second result output :=
  matches_widens _ _ widens (fun config _ same _ => absurd same (stops config)) agrees

def Follows {meaning : Semantics ε S V} (view : View meaning) (before after : BodyState)
    (run : Config S V → Result ε S V) (code : List Stmt) : Prop :=
  ∀ machine, Agrees meaning after (run (before.config meaning machine)) (view.watch code none machine)

structure Simulates (context : BodyContext) {meaning : Semantics ε S V} (view : View meaning)
    (before after : BodyState) (blocks : Nat) (run : Config S V → Result ε S V) (code : List Stmt) :
    Prop where
  emits : Emits before.frames after.frames code
  wellformed : Wellformed context after
  labels : after.nextLabel = before.nextLabel + blocks
  follows : Follows view before after run code

lemma follows_and_then (first second : Config S V → Result ε S V) (more : List Stmt)
    (widens : List.Forall₂ Frame.Widens middle.frames after.frames) (start : Follows view before middle first code)
    (rest : middle.Live → Follows view middle after second more) :
    Follows view before after (fun config => (first config).andThen second) (code ++ more) := by
  intro machine
  have here := start machine
  rw [view.watch_append]
  show Agrees meaning after ((first (before.config meaning machine)).andThen second) _
  generalize first (before.config meaning machine) = result at here ⊢
  generalize view.watch code none machine = output at here ⊢
  cases here with
  | next config machine arrived =>
    obtain ⟨live, same⟩ := arrived
    subst same
    exact rest live machine
  | branch depth config machine flag target found inner lowered signals enough landed =>
    exact agrees_widens meaning widens nofun (.branch depth config machine flag target found inner lowered signals enough landed)
  | outermost depth config machine target found outer enough store =>
    exact agrees_widens meaning widens nofun (.outermost depth config machine target found outer enough store)
  | returned | trapped | unfinished => constructor

variable {first second : Config S V → Result ε S V}

lemma simulates_congr (same : ∀ machine, second (before.config meaning machine) = first (before.config meaning machine))
    (simulates : Simulates context view before after blocks first code) :
    Simulates context view before after blocks second code where
  emits := simulates.emits
  wellformed := simulates.wellformed
  labels := simulates.labels
  follows := by
    intro machine
    rw [same]
    exact simulates.follows machine

lemma simulates_trans (start : Simulates context view before middle blocks first code)
    (rest : Simulates context view middle after others second more) : Simulates context view before after (blocks + others)
      (fun config => (first config).andThen second) (code ++ more) where
  emits := emits_trans start.emits rest.emits
  wellformed := rest.wellformed
  labels := by rw [rest.labels, start.labels, Nat.add_assoc]
  follows := follows_and_then first second more (emits_widens rest.emits) start.follows fun _ => rest.follows

end WasmLua.Compile
