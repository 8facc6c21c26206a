import WasmLua.Proofs.Body.Blocks
import WasmLua.Proofs.Fields.Mentions

namespace WasmLua.Wasm

open Target (Field)

def Module.calleeFields (module : Module) (index : Nat) : List Field :=
  match module.functions[index]? with
  | some function => if function.origin.isSome then [.function index] else []
  | none => []

def Instruction.fields (module : Module) (instruction : Instruction) : List Field :=
  match instruction.op? with
  | some .call => module.calleeFields instruction.index.toNat
  | some .refFunc => [.ref instruction.index.toNat]
  | some .globalGet | some .globalSet => [.global instruction.index.toNat]
  | some .callIndirect | some .tableGet | some .tableSet | some .tableGrow | some .tableSize
  | some .tableFill => [.table instruction.table.toNat]
  | some (.load _) | some (.store _) | some .memorySize | some .memoryGrow | some .memoryCopy
  | some .memoryFill => [.memory 0]
  | _ => []

end WasmLua.Wasm

namespace WasmLua.Target

variable {field : Field}

section Allowed

variable {α : Type} (allowed : Field → Prop)

def Allowed (fields : List Field) : Prop := ∀ field ∈ fields, allowed field

@[simp] lemma allowed_nil : Allowed allowed [] := List.forall_mem_nil _

@[simp] lemma allowed_cons {fields : List Field} :
    Allowed allowed (field :: fields) ↔ allowed field ∧ Allowed allowed fields := List.forall_mem_cons

@[simp] lemma allowed_append {first second : List Field} :
    Allowed allowed (first ++ second) ↔ Allowed allowed first ∧ Allowed allowed second :=
  List.forall_mem_append

@[simp] lemma allowed_each {items : List α} {fields : α → List Field} :
    Allowed allowed (items.flatMap fields) ↔ ∀ item ∈ items, Allowed allowed (fields item) :=
  List.forall_mem_flatMap

end Allowed

end WasmLua.Target

namespace WasmLua.Compile

open Target (Action Allowed Arms Block Callee Computation Condition Field Operand Stmt)
open Wasm (Instruction Op Signature ValueType)

/-- The same error, or results that are related. -/
inductive Alike {ε α β : Type} (same : α → β → Prop) : Except ε α → Except ε β → Prop where
  | error (fault : ε) : Alike same (.error fault) (.error fault)
  | ok {first : α} {second : β} (holds : same first second) : Alike same (.ok first) (.ok second)

section Results

variable {ε φ α β γ δ : Type} {after : γ → δ → Prop} {action : Except ε α} {other : Except ε β}

lemma alike_bind (first : Alike middle action other) (rest : ∀ a b, middle a b → Alike after (next a) (later b)) :
    Alike after (action >>= next) (other >>= later) := by
  cases first with
  | error fault => exact .error fault
  | ok holds => exact rest _ _ holds

lemma alike_error {change : ε → φ} {same : α → β → Prop} (alike : Alike same action other) :
    Alike same (action.mapError change) (other.mapError change) := by
  cases alike with
  | error fault => exact .error _
  | ok holds => exact .ok holds

end Results

/-- Statements without statements inside. -/
def Plain : Stmt → Prop
  | .act action => action ≠ probe
  | .choose _ | .once _ | .forever _ => False
  | _ => True

/-- What code may stand for what, if it reads no other than the allowed fields. -/
structure Likeness (allowed : Field → Prop) where
  code : List Stmt → List Stmt → Prop
  block : Block → Block → Prop
  arms : Arms → Arms → Prop
  nil : code [] []
  append {a b c d : List Stmt} : code a b → code c d → code (a ++ c) (b ++ d)
  keep (stmt : Stmt) : Plain stmt → Allowed allowed stmt.fields → code [stmt] [stmt]
  choose {a b : Arms} : arms a b → code [.choose a] [.choose b]
  once {a b : Block} : block a b → code [.once a] [.once b]
  forever {a b : Block} : block a b → code [.forever a] [.forever b]
  ofList {a b : List Stmt} : code a b → block (.ofList a) (.ofList b)
  none : arms .none .none
  otherwise {a b : Block} : block a b → arms (.otherwise a) (.otherwise b)
  arm (condition : Condition) {a b : Block} {c d : Arms} : Allowed allowed condition.fields → block a b →
    arms c d → arms (.arm condition a c) (.arm condition b d)

/-- Deferred values may be written at any later point. -/
def Held (allowed : Field → Prop) (stack : ValueStack) : Prop :=
  ∀ entry ∈ stack, ∀ operand ∈ entry.deferred, Allowed allowed operand.fields

variable {allowed : Field → Prop} (like : Likeness allowed)

/-- Open blocks that differ in their code only. The condition is written when the block is closed. -/
inductive Frame.Like (frame : Frame) : Frame → Prop where
  | intro (code : List Stmt) (thenArm : Option (Block × Bool))
      (written : like.code frame.code.reverse code.reverse)
      (first : Option.Rel (fun arm other => like.block arm.1 other.1 ∧ arm.2 = other.2) frame.thenArm thenArm)
      (condition : ∀ operand, frame.kind = .conditional operand → Allowed allowed operand.fields) :
      Like frame { frame with code := code, thenArm := thenArm }

inductive BodyState.Like (state : BodyState) : BodyState → Prop where
  | intro (frames : List Frame) (finished : List Stmt) (held : Held allowed state.stack)
      (opened : List.Forall₂ (Frame.Like like) state.frames frames)
      (closed : like.code state.finished finished) :
      Like state { state with frames := frames, finished := finished }

variable {like}

section Stack

variable {stack : ValueStack} (held : Held allowed stack)

lemma entry_held {entry : Entry} {below : Nat} (held : ∀ operand ∈ entry.deferred, Allowed allowed operand.fields) :
    Allowed allowed (entry.operand below).fields := by
  unfold Entry.operand
  cases known : entry.deferred with
  | none => exact Target.allowed_nil allowed
  | some operand => exact held operand known

include held

lemma top_held (count : Nat) : ∀ operand ∈ stack.top count, Allowed allowed operand.fields := by
  have operands : ∀ operand ∈ stack.operands, Allowed allowed operand.fields := by
    induction stack with
    | nil => exact List.forall_mem_nil _
    | cons entry rest ih =>
      obtain ⟨here, later⟩ := List.forall_mem_cons.mp held
      exact List.forall_mem_cons.mpr ⟨entry_held here, ih later⟩
  intro operand member
  exact operands operand (List.mem_of_mem_take (List.mem_reverse.mp member))

lemma materialize_like (select : Nat → Operand → Bool) : like.code (stack.materialize select).1 (stack.materialize select).1 ∧
      Held allowed (stack.materialize select).2 := by
  induction stack with
  | nil => exact ⟨like.nil, List.forall_mem_nil _⟩
  | cons entry rest ih =>
    obtain ⟨here, later⟩ := List.forall_mem_cons.mp held
    obtain ⟨code, below⟩ := ih later
    have kept := List.forall_mem_cons.mpr ⟨here, below⟩
    rw [ValueStack.materialize]
    cases known : entry.deferred with
    | none => exact ⟨code, kept⟩
    | some operand =>
      by_cases chosen : select rest.length operand = true
      · simp only [chosen, if_true]
        have plain : Plain (.act (.setSlot rest.length operand)) := by
          rintro ⟨⟩
        refine ⟨like.append code (like.keep _ plain (here operand known)), ?_⟩
        refine List.forall_mem_cons.mpr ⟨?_, below⟩
        rintro _ ⟨⟩
      · simp only [chosen]
        exact ⟨code, kept⟩

end Stack

lemma moves_like (target : Nat) (held : Allowed allowed (values.flatMap Operand.fields)) :
    like.code (ValueStack.moves target values) (ValueStack.moves target values) := by
  unfold ValueStack.moves
  split
  · exact like.nil
  · rename_i some
    refine like.keep _ (by simpa [Plain, probe] using some) ((Target.allowed_each _).mpr ?_)
    intro pair member
    have inside := (List.mem_filter.mp member).1
    obtain ⟨i, bound, rfl⟩ := List.mem_mapIdx.mp inside
    exact (Target.allowed_each _).mp held _ (List.getElem_mem bound)

variable {frame twin : Frame}

lemma Frame.same_like (here : frame.Like like twin) :
    twin.isFunction = frame.isFunction ∧ twin.isLoop = frame.isLoop ∧ twin.arity = frame.arity ∧
      twin.height = frame.height ∧ twin.label = frame.label := by
  obtain ⟨code, thenArm, written, first, condition⟩ := here
  exact ⟨rfl, rfl, rfl, rfl, rfl⟩

lemma leave_code : like.code [.leave] [.leave] := like.keep .leave trivial (Target.allowed_nil allowed)

lemma clear_code : like.code [.clearFlag] [.clearFlag] := like.keep .clearFlag trivial (Target.allowed_nil allowed)

namespace BodyState

variable {state other : BodyState}

section

variable (same : state.Like like other) include same

lemma held_like : Held allowed state.stack := by
  obtain ⟨frames, finished, held, opened, closed⟩ := same
  exact held

lemma stack_like : other.stack = state.stack := by
  obtain ⟨frames, finished, held, opened, closed⟩ := same
  rfl

lemma next_like : other.next = state.next := congrArg List.length (stack_like same)

lemma frames_like : List.Forall₂ (Frame.Like like) state.frames other.frames := by
  obtain ⟨frames, finished, held, opened, closed⟩ := same
  exact opened

lemma finished_like : like.code state.finished other.finished := by
  obtain ⟨frames, finished, held, opened, closed⟩ := same
  exact closed

lemma height_like : other.height = state.height := by
  have opened := frames_like same
  unfold height
  generalize state.frames = frames, other.frames = twins at opened
  cases opened with
  | nil => rfl
  | cons here outer =>
    cases here
    rfl

end

lemma modify_like (kept : ∀ frame twin, frame.Like like twin → (change frame).Like like (different twin))
    (same : state.Like like other) : (state.modifyTop change).Like like (other.modifyTop different) := by
  obtain ⟨twins, finished, held, opened, closed⟩ := same
  obtain ⟨stack, frames⟩ := state
  cases opened with
  | nil => exact .intro [] finished held .nil closed
  | cons here outer => exact .intro _ finished held (.cons (kept _ _ here) outer) closed

lemma emit_like (written : like.code code more) (same : state.Like like other) :
    (state.emit code).Like like (other.emit more) := by
  refine modify_like ?_ same
  rintro frame _ ⟨old, thenArm, before, first, condition⟩
  refine .intro _ _ ?_ first condition
  rw [List.reverse_append, List.reverse_append, List.reverse_reverse, List.reverse_reverse]
  exact like.append before written

lemma act_like (emitted : action ≠ probe) (read : Allowed allowed action.fields)
    (same : state.Like like other) : (state.act action).Like like (other.act action) :=
  emit_like (like.keep _ emitted read) same

lemma unreachable_like (same : state.Like like other) : state.setUnreachable.Like like other.setUnreachable := by
  refine modify_like ?_ same
  rintro frame _ ⟨code, thenArm, written, first, condition⟩
  exact .intro _ _ written first condition

lemma push_entry_like (read : ∀ operand ∈ entry.deferred, Allowed allowed operand.fields) (same : state.Like like other) :
    (state.pushEntry entry).Like like (other.pushEntry entry) := by
  obtain ⟨frames, finished, held, opened, closed⟩ := same
  exact .intro frames finished (List.forall_mem_cons.mpr ⟨read, held⟩) opened closed

lemma push_like (type : ValueType) (same : state.Like like other) : (state.push type).Like like (other.push type) := by
  refine push_entry_like ?_ same
  rintro _ ⟨⟩

lemma push_all_like (types : List ValueType) (same : state.Like like other) :
    (state.pushAll types).Like like (other.pushAll types) := by
  induction types generalizing state other with
  | nil => exact same
  | cons type types ih => exact ih (push_like type same)

lemma push_operand_like (type : ValueType) (read : Allowed allowed operand.fields)
    (same : state.Like like other) : (state.pushEntry ⟨type, some operand⟩).Like like (other.pushEntry ⟨type, some operand⟩) := by
  refine push_entry_like ?_ same
  rintro _ ⟨⟩
  exact read

lemma stacked_like {stack : ValueStack} (held : Held allowed stack) (same : state.Like like other) :
    ({ state with stack := stack } : BodyState).Like like { other with stack := stack } := by
  obtain ⟨frames, finished, _, opened, closed⟩ := same
  exact .intro frames finished held opened closed

lemma materialized_like (select : Nat → Operand → Bool) (same : state.Like like other) :
    (state.materialize select).Like like (other.materialize select) := by
  obtain ⟨code, held⟩ := materialize_like (held_like same) select
  unfold materialize
  rw [stack_like same]
  exact stacked_like held (emit_like code same)

/-- A value that is taken reads what its entry deferred. -/
def Taking (like : Likeness allowed) (taken other : Taken × BodyState) : Prop :=
  taken.1 = other.1 ∧ Allowed allowed taken.1.operand.fields ∧ taken.2.Like like other.2

variable (same : state.Like like other) include same

lemma pop_like : Alike (Taking like) state.pop other.pop := by
  have held := held_like same
  unfold pop
  rw [height_like same, stack_like same]
  cases stack : state.stack with
  | nil => exact .error _
  | cons entry rest =>
    rw [stack] at held
    obtain ⟨here, below⟩ := List.forall_mem_cons.mp held
    dsimp only
    split
    · exact .error _
    · exact .ok ⟨rfl, entry_held here, stacked_like below same⟩

lemma alike_pop {after : γ → δ → Prop} {next : Taken × BodyState → Except StackFault γ} {later : Taken × BodyState → Except StackFault δ}
    (rest : ∀ value first second, Allowed allowed value.operand.fields → Like like first second →
      Alike after (next (value, first)) (later (value, second))) : Alike after (state.pop >>= next) (other.pop >>= later) := by
  refine alike_bind (pop_like same) ?_
  rintro ⟨value, first⟩ ⟨_, second⟩ ⟨rfl, read, same⟩
  exact rest value first second read same

variable {count : Nat} {type : ValueType} {otherwise : Int64}

lemma pop_many_like : Alike (fun taken twin => taken.1 = twin.1 ∧
      (∀ operand ∈ taken.1, Allowed allowed operand.fields) ∧ taken.2.Like like twin.2)
      (popMany count state) (popMany count other) := by
  induction count generalizing state other with
  | zero => exact .ok ⟨rfl, List.forall_mem_nil _, same⟩
  | succ count ih =>
    refine alike_pop same fun value next later here same => ?_
    refine alike_bind (ih same) ?_
    rintro ⟨deeper, last⟩ ⟨_, end_⟩ ⟨rfl, below, same⟩
    exact .ok ⟨rfl, List.forall_mem_append.mpr ⟨below, List.forall_mem_singleton.mpr here⟩, same⟩

lemma top_operands_like :
    Alike (fun values twins => values = twins ∧ Allowed allowed (values.flatMap Operand.fields))
      (state.topOperands count fault) (other.topOperands count fault) := by
  unfold topOperands
  rw [height_like same, stack_like same]
  split
  · exact .error _
  · exact .ok ⟨rfl, (Target.allowed_each _).mpr (top_held (held_like same) count)⟩

section Operators

lemma nullary_like (read : Allowed allowed value.fields) :
    (state.nullary type value).Like like (other.nullary type value) := by
  unfold nullary
  rw [next_like same]
  exact act_like nofun read (push_like type same)

lemma unary_like {make : Operand → Computation} (made : ∀ a, Allowed allowed a.fields → Allowed allowed (make a).fields) :
    Alike (Like like) (state.unary type make) (other.unary type make) := by
  refine alike_pop same fun a next later read same => ?_
  exact .ok (nullary_like same (made _ read))

lemma binary_like {make : Operand → Operand → Computation} (made : ∀ a b, Allowed allowed a.fields → Allowed allowed b.fields →
      Allowed allowed (make a b).fields) : Alike (Like like) (state.binary type make) (other.binary type make) := by
  refine alike_pop same fun b next later second same => ?_
  refine alike_pop same fun a next later first same => ?_
  exact .ok (nullary_like same (made _ _ first second))

lemma effect2_like {make : Operand → Operand → Action} (emitted : ∀ a b, make a b ≠ probe)
    (made : ∀ a b, Allowed allowed a.fields → Allowed allowed b.fields →
      Allowed allowed (make a b).fields) : Alike (Like like) (state.effect2 make) (other.effect2 make) := by
  refine alike_pop same fun b next later second same => ?_
  refine alike_pop same fun a next later first same => ?_
  exact .ok (act_like (emitted _ _) (made _ _ first second) same)

lemma effect3_like {make : Operand → Operand → Operand → Action} (emitted : ∀ a b c, make a b c ≠ probe)
    (made : ∀ a b c, Allowed allowed a.fields → Allowed allowed b.fields → Allowed allowed c.fields →
      Allowed allowed (make a b c).fields) : Alike (Like like) (state.effect3 make) (other.effect3 make) := by
  refine alike_pop same fun c next later third same => ?_
  refine alike_pop same fun b next later second same => ?_
  refine alike_pop same fun a next later first same => ?_
  exact .ok (act_like (emitted _ _ _) (made _ _ _ first second third) same)

end Operators

section Branches

omit same in
lemma flagged_like (here : frame.Like like twin) :
    ({ frame with flagSelf := true } : Frame).Like like { twin with flagSelf := true } := by
  obtain ⟨code, thenArm, written, first, condition⟩ := here
  exact .intro _ _ written first condition

omit same in
lemma reached_like (here : frame.Like like twin) : frame.reached.Like like twin.reached := by
  obtain ⟨code, thenArm, written, first, condition⟩ := here
  have loop : ({ frame with code := code, thenArm := thenArm } : Frame).isLoop = frame.isLoop := rfl
  unfold Frame.reached
  rw [loop]
  split <;> exact .intro _ _ written first condition

omit same in
lemma passed_like {frames twins : List Frame} (each : List.Forall₂ (Frame.Like like) frames twins) :
    List.Forall₂ (Frame.Like like) (frames.map Frame.passed) (twins.map Frame.passed) := by
  refine List.forall₂_map_left_iff.mpr (List.forall₂_map_right_iff.mpr (each.imp ?_))
  rintro frame _ ⟨code, thenArm, written, first, condition⟩
  unfold Frame.passed
  dsimp only
  split <;> exact .intro _ _ written first condition

omit same in
lemma lowered_like {frames twins : List Frame} (each : List.Forall₂ (Frame.Like like) frames twins) :
    twins.any (·.lowered) = frames.any (·.lowered) := by
  induction each with
  | nil => rfl
  | cons here rest ih =>
    cases here
    rw [List.any_cons, List.any_cons, ih]

omit same in
lemma found_like {frames twins : List Frame} (each : List.Forall₂ (Frame.Like like) frames twins)
    (depth : Nat) : Option.Rel (Frame.Like like) frames[depth]? twins[depth]? := by
  induction each generalizing depth with
  | nil => exact .none
  | cons here rest ih =>
    cases depth with
    | zero => exact .some here
    | succ depth => exact ih depth

lemma branch_like (depth : Int64) :
    Alike (fun left twin => like.code left.1 twin.1 ∧ left.2.Like like twin.2) (state.branch depth) (other.branch depth) := by
  have opened := frames_like same
  have inner := List.forall₂_take depth.toInt.toNat opened
  have outer := List.forall₂_drop (depth.toInt.toNat + 1) opened
  have lowered := lowered_like inner
  have reached (frame : Frame) : (if frame.isLoop then frame else { frame with branched := true }) = frame.reached := rfl
  have passed : (fun between : Frame =>
      if between.lowered then { between with escapes := true } else between) = Frame.passed := rfl
  unfold branch
  by_cases negative : depth.toInt < 0
  · simp only [if_pos negative]
    exact .error _
  simp only [if_neg negative, reached, passed]
  have found := found_like opened depth.toInt.toNat
  generalize state.frames[depth.toInt.toNat]? = place, other.frames[depth.toInt.toNat]? = twin at found
  cases found with
  | none => exact .error _
  | @some frame twin here =>
    have marks := reached_like here
    obtain ⟨function, -, arity, height, -⟩ := Frame.same_like here
    obtain ⟨-, loops, -, -, label⟩ := Frame.same_like marks
    simp only [function, arity, height, loops, lowered]
    split
    · refine alike_bind (top_operands_like same) ?_
      rintro values _ ⟨rfl, read⟩
      exact .ok ⟨like.keep (.ret values) trivial read, same⟩
    · refine alike_bind (top_operands_like same) ?_
      rintro values _ ⟨rfl, read⟩
      have moved : like.code _ _ := moves_like frame.height read
      obtain ⟨twins, finished, held, opened, closed⟩ := same
      split
      · refine .ok ⟨like.append moved leave_code, ?_⟩
        exact .intro _ finished held (List.rel_append inner (.cons marks outer)) closed
      · have set := like.keep (.setFlag frame.reached.label) trivial (Target.allowed_nil allowed)
        nth_rewrite 2 [← label] at set
        refine .ok ⟨like.append moved (like.append set leave_code), ?_⟩
        exact .intro _ finished held (List.rel_append (passed_like inner) (.cons (flagged_like marks) outer)) closed

lemma jump_like (depth : Int64) : Alike (Like like) (state.jump depth) (other.jump depth) := by
  refine alike_bind (branch_like same depth) ?_
  rintro ⟨code, next⟩ ⟨more, later⟩ ⟨written, same⟩
  exact .ok (unreachable_like (emit_like written same))

lemma branch_if_like {depth : Int64} : Alike (Like like) (state.branchIf depth) (other.branchIf depth) := by
  refine alike_pop same fun condition next later read same => ?_
  dsimp only
  split
  · split
    · exact .ok same
    · exact jump_like same depth
  · refine alike_bind (branch_like same depth) ?_
    rintro ⟨code, next⟩ ⟨more, later⟩ ⟨written, same⟩
    exact .ok (emit_like (like.choose (like.arm _ read (like.ofList written) like.none)) same)

lemma table_arms_like {index : Operand} (read : Allowed allowed index.fields) {runs : List Run} :
    Alike (fun made twin => like.arms made.1 twin.1 ∧ made.2.Like like twin.2)
      (tableArms index otherwise runs state) (tableArms index otherwise runs other) := by
  induction runs generalizing state other with
  | nil =>
    refine alike_bind (branch_like same otherwise) ?_
    rintro ⟨code, next⟩ ⟨more, later⟩ ⟨written, same⟩
    exact .ok ⟨like.otherwise (like.ofList written), same⟩
  | cons run rest ih =>
    refine alike_bind (branch_like same run.label) ?_
    rintro ⟨code, next⟩ ⟨more, later⟩ ⟨written, same⟩
    refine alike_bind (ih same) ?_
    rintro ⟨arms, next⟩ ⟨twins, later⟩ ⟨others, same⟩
    exact .ok ⟨like.arm (.value _) (by unfold Run.test; split <;> exact read) (like.ofList written) others, same⟩

lemma branch_table_like {labels : List Int64} :
    Alike (Like like) (state.branchTable labels otherwise) (other.branchTable labels otherwise) := by
  refine alike_pop same fun index next later read same => ?_
  dsimp only
  split
  · exact jump_like same _
  · split
    · exact jump_like same _
    · refine alike_bind (table_arms_like same read) ?_
      rintro ⟨arms, next⟩ ⟨twins, later⟩ ⟨written, same⟩
      exact .ok (unreachable_like (emit_like (like.choose written) same))

end Branches

lemma select_like : Alike (Like like) state.select other.select := by
  refine alike_pop same fun condition next later test same => ?_
  refine alike_pop same fun b next later second same => ?_
  refine alike_pop same fun a next later first same => ?_
  have slot := next_like same
  have pushed := push_like a.type same
  dsimp only at test second first same slot pushed ⊢
  have put (slot : Nat) (operand : Operand) (read : Allowed allowed operand.fields) :
      like.code [.act (.setSlot slot operand)] [.act (.setSlot slot operand)] := like.keep _ nofun read
  rw [slot]
  split
  · split
    · exact .ok (push_operand_like a.type first same)
    · refine .ok ?_
      split
      · exact pushed
      · exact act_like nofun second pushed
  · refine .ok (emit_like (like.choose (like.arm _ test (like.ofList (put _ _ second)) ?_)) pushed)
    split
    · exact like.none
    · exact like.otherwise (like.ofList (put _ _ first))

lemma call_like (signature : Signature) (read : Allowed allowed callee.fields) :
    Alike (Like like) (state.call callee signature) (other.call callee signature) := by
  refine alike_bind (pop_many_like same) ?_
  rintro ⟨args, next⟩ ⟨_, later⟩ ⟨rfl, each, same⟩
  dsimp only
  rw [next_like same]
  refine .ok (act_like nofun ?_ (push_all_like _ same))
  exact (Target.allowed_append _).mpr ⟨read, (Target.allowed_each _).mpr each⟩

section Blocks

lemma enter_like (context : BodyContext)
    (condition : ∀ operand, kind = .conditional operand → Allowed allowed operand.fields) :
    Alike (Like like) (state.enter context kind instruction) (other.enter context kind instruction) := by
  have height := height_like same
  obtain ⟨twins, finished, held, opened, closed⟩ := same
  unfold enter
  rw [height]
  split
  · exact .error _
  · dsimp only
    split
    · exact .error _
    · exact .ok (.intro _ finished held (.cons (.intro [] none like.nil .none condition) opened) closed)

lemma ended_like (here : frame.Like like twin) :
    Alike (Like like) (if frame.unreachable then pure state else state.endValues frame)
      (if twin.unreachable then pure other else other.endValues twin) := by
  have ends : Alike (Like like) (state.endValues frame) (other.endValues twin) := by
    have stack := stack_like same
    obtain ⟨code, thenArm, written, first, condition⟩ := here
    unfold endValues
    rw [stack]
    dsimp only
    split
    · exact .error _
    · exact .ok (materialized_like _ same)
  obtain ⟨code, thenArm, written, first, condition⟩ := here
  dsimp only
  split
  · exact .ok same
  · exact ends

lemma trim_like {height : Nat} : ({ state with stack := state.stack.trim height } : BodyState).Like like
      { other with stack := other.stack.trim height } := by
  rw [stack_like same]
  exact stacked_like (fun entry member => held_like same entry (List.mem_of_mem_drop member)) same

end Blocks

end BodyState

section Closing

variable {frame twin : Frame}

lemma Frame.body_like (here : frame.Like like twin) : like.block frame.body twin.body := by
  obtain ⟨code, thenArm, written, first, condition⟩ := here
  exact like.ofList written

lemma pass_on_like : like.code [Frame.passOn] [Frame.passOn] :=
  like.choose (like.arm .flagSet (Target.allowed_nil allowed) (like.ofList leave_code) like.none)

lemma Frame.after_like : like.code frame.afterBlock frame.afterBlock := by
  unfold Frame.afterBlock
  split
  · exact like.choose (like.arm _ (Target.allowed_nil allowed) (like.ofList clear_code)
      (like.arm _ (Target.allowed_nil allowed) (like.ofList leave_code) like.none))
  · exact clear_code
  · exact pass_on_like
  · exact like.nil

lemma Frame.breakable_like {code more : List Stmt} (written : like.code code more) :
    like.code (frame.breakable code) (frame.breakable more) := by
  unfold Frame.breakable
  split
  · exact like.append (like.once (like.ofList written)) Frame.after_like
  · exact written

lemma Frame.again_like : like.code [frame.again] [frame.again] := by
  unfold Frame.again
  split
  · exact like.choose (like.arm _ (Target.allowed_nil allowed) (like.ofList clear_code) (like.otherwise (like.ofList leave_code)))
  · exact leave_code

lemma Frame.close_like (here : frame.Like like twin) : like.code frame.close twin.close := by
  have body := Frame.body_like here
  obtain ⟨code, thenArm, written, first, condition⟩ := here
  have breaks (code more : List Stmt) (written : like.code code more) :
      like.code (frame.breakable code) (frame.breakable more) := Frame.breakable_like written
  unfold Frame.close
  dsimp only
  cases kind : frame.kind with
  | function => exact written
  | block => exact breaks _ _ written
  | conditional operand =>
    have test := condition operand kind
    refine breaks _ _ (like.choose ?_)
    generalize frame.thenArm = arm at first
    cases first with
    | none => exact like.arm _ test body like.none
    | some both => exact like.arm _ test both.1 (like.otherwise body)
  | loop =>
    dsimp only
    split
    · have passes : like.code (if frame.escapes then [passOn] else []) (if frame.escapes then [passOn] else []) := by
        split
        · exact pass_on_like
        · exact like.nil
      have again : like.code [frame.again] [frame.again] := Frame.again_like
      exact like.append (like.forever (like.ofList (like.append (like.once body) again))) passes
    · exact written

lemma Frame.continues_like (here : frame.Like like twin) : twin.continues = frame.continues := by
  obtain ⟨code, thenArm, written, first, condition⟩ := here
  unfold Frame.continues
  dsimp only
  generalize frame.thenArm = arm at first
  cases first with
  | none => rfl
  | @some arm other both =>
    obtain ⟨first, reachable⟩ := arm
    obtain ⟨second, _⟩ := other
    obtain ⟨_, rfl⟩ := both
    rfl

end Closing

namespace BodyState

variable {state other : BodyState} {frame : Frame} {outer : List Frame}

def finish (state : BodyState) : BodyState :=
  match state.frames with
  | frame :: _ => { state with frames := [], finished := frame.close }
  | [] => state

def leave (state : BodyState) (outer : List Frame) : BodyState :=
  match state.frames with
  | [] => state
  | frame :: _ =>
    let around : BodyState := { state with frames := outer, stack := state.stack.trim frame.height }
    ((around.emit frame.close).pushAll frame.results).modifyTop fun parent =>
      { parent with unreachable := !frame.continues }

lemma end_eq (frames : state.frames = frame :: outer) : state.endBlock =
      if frame.isFunction then
        if frame.unreachable || frame.results.isEmpty then pure state.finish
        else do
          let values ← state.topOperands frame.results.length .underflow
          pure (state.emit [.ret values]).finish
      else (if frame.unreachable then pure state else state.endValues frame) >>= fun last =>
        pure (last.leave outer) := by
  have finishes : ∀ final : BodyState, (match final.frames with
      | frame :: _ => return { final with frames := [], finished := frame.close }
      | [] => return final : Except StackFault BodyState) = pure final.finish := by
    intro final
    unfold finish
    cases final.frames <;> rfl
  unfold endBlock
  rw [frames]
  dsimp only
  split
  · split
    · exact (pure_bind _ _).trans (finishes state)
    · apply bind_congr
      intro values
      exact (pure_bind _ _).trans (finishes _)
  · rw [ended_bind]
    apply bind_congr
    intro last
    unfold leave
    cases last.frames <;> rfl

variable (same : state.Like like other) include same

lemma else_like : Alike (Like like) state.elseArm other.elseArm := by
  have opened := frames_like same
  cases top : state.frames with
  | nil =>
    rw [top] at opened
    unfold elseArm
    rw [top, List.forall₂_nil_left_iff.mp opened]
    exact .error _
  | cons frame outer =>
    rw [top] at opened
    obtain ⟨twin, others, here, around, twins⟩ := List.forall₂_cons_left_iff.mp opened
    have refuses : twin.refusesElse = frame.refusesElse := by
      obtain ⟨code, thenArm, written, first, condition⟩ := here
      unfold Frame.refusesElse
      dsimp only
      generalize frame.thenArm = arm at first
      cases first <;> rfl
    have shape : twin.height = frame.height ∧ twin.params = frame.params := by
      cases here
      exact ⟨rfl, rfl⟩
    rw [else_eq top, else_eq twins, refuses, shape.1, shape.2]
    split
    · exact .error _
    refine alike_bind (ended_like same here) fun next later same => ?_
    refine .ok (push_all_like _ (trim_like (modify_like ?_ same)))
    intro inner twin inside
    have body := Frame.body_like inside
    obtain ⟨code, thenArm, written, first, condition⟩ := inside
    exact .intro [] (some _) like.nil (.some ⟨body, rfl⟩) condition

lemma finish_like : state.finish.Like like other.finish := by
  obtain ⟨twins, finished, held, opened, closed⟩ := same
  obtain ⟨stack, frames⟩ := state
  cases opened with
  | nil => exact .intro [] finished held .nil closed
  | cons here around => exact .intro [] _ held .nil (Frame.close_like here)

lemma leave_like (around : List.Forall₂ (Frame.Like like) outer twins) :
    (state.leave outer).Like like (other.leave twins) := by
  have opened := frames_like same
  have left (height : Nat) : Like like { state with frames := outer, stack := state.stack.trim height }
      { other with frames := twins, stack := other.stack.trim height } := by
    obtain ⟨frames, finished, held, opened, closed⟩ := same
    exact .intro twins finished (fun entry member => held entry (List.mem_of_mem_drop member)) around closed
  unfold leave
  cases top : state.frames with
  | nil =>
    rw [top] at opened
    rw [List.forall₂_nil_left_iff.mp opened]
    exact same
  | cons frame rest =>
    rw [top] at opened
    obtain ⟨twin, others, here, -, found⟩ := List.forall₂_cons_left_iff.mp opened
    have written := Frame.close_like here
    have continues := Frame.continues_like here
    obtain ⟨code, thenArm, _, _, _⟩ := here
    rw [found]
    refine modify_like ?_ (push_all_like frame.results (emit_like written (left frame.height)))
    rintro parent _ ⟨code, thenArm, written, first, condition⟩
    rw [continues]
    exact .intro _ _ written first condition

lemma end_like : Alike (Like like) state.endBlock other.endBlock := by
  have opened := frames_like same
  cases top : state.frames with
  | nil =>
    rw [top] at opened
    unfold endBlock
    rw [top, List.forall₂_nil_left_iff.mp opened]
    exact .error _
  | cons frame outer =>
    rw [top] at opened
    obtain ⟨twin, others, here, around, twins⟩ := List.forall₂_cons_left_iff.mp opened
    have shape : twin.unreachable = frame.unreachable ∧ twin.results = frame.results := by
      cases here
      exact ⟨rfl, rfl⟩
    rw [end_eq top, end_eq twins, (Frame.same_like here).1, shape.1, shape.2]
    split
    · split
      · exact .ok (finish_like same)
      · refine alike_bind (top_operands_like same) ?_
        rintro values _ ⟨rfl, read⟩
        exact .ok (finish_like (emit_like (like.keep (.ret values) trivial read) same))
    · have ended := ended_like same here
      rw [shape.1] at ended
      exact alike_bind ended fun next later same => .ok (leave_like same around)

end BodyState

section Instructions

variable {state other : BodyState} (same : state.Like like other) {context : BodyContext} {instruction : Instruction}

open BodyState

include same

lemma set_local_like {index : Nat} (tee : Bool) (type : ValueType) :
    let set (state : BodyState) : Except StackFault BodyState := do
      let (value, state) ← state.pop
      let state := state.assigned index value.operand
      return if tee then state.pushEntry ⟨type, some (.local index)⟩ else state
    Alike (Like like) (set state) (set other) := by
  refine alike_pop same fun value next later read same => ?_
  have kept := materialized_like (fun _ operand => operand == Operand.local index) same
  have stored : (next.assigned index value.operand).Like like (later.assigned index value.operand) := by
    unfold assigned
    dsimp only
    split
    · exact kept
    · exact act_like nofun read kept
  refine .ok ?_
  split
  · exact push_operand_like type (Target.allowed_nil allowed) stored
  · exact stored

lemma op_like {op : Op} (known : instruction.op? = some op) (named : Allowed allowed (instruction.fields context.module)) :
    Alike (Like like) (compileOp context state instruction op) (compileOp context other instruction op) := by
  unfold Instruction.fields at named
  rw [known] at named
  unfold compileOp
  cases unaryOf? op with
  | some found => exact unary_like same fun _ read => read
  | none =>
  cases binaryOf? op with
  | some found =>
    exact binary_like same fun _ _ first second => (Target.allowed_append _).mpr ⟨first, second⟩
  | none =>
  dsimp only
  cases op with
  | endBlock => exact end_like same
  | load | tableGet | memoryGrow =>
    exact unary_like same fun _ read => (Target.allowed_append _).mpr ⟨named, read⟩
  | store | tableSet =>
    refine effect2_like same (fun _ _ => nofun) fun _ _ first second => ?_
    exact (Target.allowed_append _).mpr ⟨named, (Target.allowed_append _).mpr ⟨first, second⟩⟩
  | unreachable => exact .ok (unreachable_like (act_like nofun (Target.allowed_nil allowed) same))
  | block | loop => exact enter_like (materialized_like _ same) context nofun
  | ifElse =>
    refine alike_pop same fun condition next later read same => ?_
    refine enter_like (materialized_like _ same) context ?_
    rintro _ ⟨⟩
    exact read
  | elseArm => exact else_like same
  | br => exact jump_like same _
  | brIf => exact branch_if_like same
  | brTable => exact branch_table_like same
  | ret =>
    refine alike_bind (top_operands_like same) ?_
    rintro values _ ⟨rfl, read⟩
    exact .ok (unreachable_like (emit_like (like.keep (.ret values) trivial read) same))
  | callIndirect =>
    cases context.scope.type? instruction.index with
    | none => exact .error _
    | some signature =>
      refine alike_pop same fun index next later read same => ?_
      exact call_like same signature ((Target.allowed_append _).mpr ⟨named, read⟩)
  | drop =>
    refine alike_pop same fun value next later _ same => ?_
    exact .ok same
  | select | selectTyped => exact select_like same
  | localGet | localSet | localTee =>
    cases context.scope.local? instruction.index with
    | none => exact .error _
    | some type =>
      first
      | exact .ok (push_operand_like type (Target.allowed_nil allowed) same)
      | exact set_local_like same _ type
  | globalGet =>
    cases context.scope.global? instruction.index with
    | none => exact .error _
    | some type => exact .ok (nullary_like same named)
  | globalSet =>
    cases context.scope.global? instruction.index with
    | none => exact .error _
    | some type =>
      refine alike_pop same fun value next later read same => ?_
      exact .ok (act_like nofun ((Target.allowed_append _).mpr ⟨named, read⟩) same)
  | memorySize | tableSize => exact .ok (nullary_like same named)
  | const type =>
    rcases type with ⟨_ | _⟩ | ⟨_ | _⟩ <;>
      exact .ok (push_operand_like _ (Target.allowed_nil allowed) same)
  | convert op =>
    have held := held_like same
    rw [height_like same, stack_like same]
    cases stack : state.stack with
    | nil => exact .error _
    | cons entry rest =>
      rw [stack] at held
      dsimp only
      split
      · exact .error _
      · exact .ok (stacked_like (List.forall_mem_cons.mpr (List.forall_mem_cons.mp held)) same)
  | refNull => exact .ok (push_operand_like _ (Target.allowed_nil allowed) same)
  | refFunc => exact .ok (push_operand_like _ named same)
  | memoryCopy | memoryFill | tableFill =>
    exact effect3_like same (fun _ _ _ => nofun) fun _ _ _ first second third =>
      (Target.allowed_append _).mpr ⟨named, (Target.allowed_append _).mpr ⟨(Target.allowed_append _).mpr ⟨first, second⟩, third⟩⟩
  | tableGrow =>
    refine binary_like same fun _ _ first second => ?_
    exact (Target.allowed_append _).mpr ⟨named, (Target.allowed_append _).mpr ⟨first, second⟩⟩
  | _ => exact .ok same

lemma call_alike (known : instruction.op? = some .call) (named : Allowed allowed (instruction.fields context.module)) :
    Alike (Like like) (compileCall context state instruction.index) (compileCall context other instruction.index) := by
  unfold Instruction.fields at named
  rw [known] at named
  unfold Wasm.Module.calleeFields at named
  unfold compileCall
  cases found : context.module.functions[instruction.index.toNat]? with
  | none => exact .error _
  | some function =>
    simp only [found] at named
    dsimp only
    cases context.scope.type? function.type with
    | none => exact .error _
    | some signature =>
      refine alike_error (call_like same signature ?_)
      by_cases imported : function.origin.isSome = true
      · rw [if_pos imported] at named ⊢
        exact named
      · rw [if_neg imported]
        exact Target.allowed_nil allowed

lemma skip_like : Option.Rel (Like like) (skip? state instruction) (skip? other instruction) := by
  obtain ⟨frames, finished, held, opened, closed⟩ := same
  have kept (skipped label : Nat) : Like like { state with skipped := skipped, nextLabel := label }
      { state with skipped := skipped, nextLabel := label, frames := frames, finished := finished } :=
    .intro frames finished held opened closed
  unfold skip?
  dsimp only
  split
  · exact .some (kept _ _)
  · exact .some (kept _ _)
  · exact .some (kept _ _)
  · split
    · exact .some (kept _ _)
    · exact .none
  · split
    · exact .some (kept _ _)
    · exact .none
  · exact .some (kept _ _)

lemma instruction_like (named : Allowed allowed (instruction.fields context.module)) :
    Alike (Like like) (compileInstruction context state instruction) (compileInstruction context other instruction) := by
  unfold compileInstruction
  split
  · exact .error _
  · rename_i known
    exact call_alike same known named
  · rename_i op _ known
    exact alike_error (op_like same known named)

lemma step_like (named : Allowed allowed (instruction.fields context.module)) :
    Alike (Like like) (stepBody context state instruction) (stepBody context other instruction) := by
  have opened := frames_like same
  have skips : Option.Rel (Like like) (skip? state instruction) _ := skip_like same
  unfold stepBody
  cases top : state.frames with
  | nil =>
    rw [top] at opened
    rw [List.forall₂_nil_left_iff.mp opened]
    exact .error _
  | cons frame rest =>
    rw [top] at opened
    obtain ⟨twin, others, ⟨code, thenArm, _, _, _⟩, -, found⟩ := List.forall₂_cons_left_iff.mp opened
    have chosen : Option.Rel (Like like) (if frame.unreachable then skip? state instruction else none)
        (if frame.unreachable then skip? other instruction else none) := by
      split
      · exact skips
      · exact .none
    rw [found]
    dsimp only
    generalize (if frame.unreachable then skip? state instruction else none) = skipped,
      (if frame.unreachable then skip? other instruction else none) = image at chosen ⊢
    cases chosen with
    | some same => exact .ok same
    | none =>
      refine alike_bind (instruction_like same named) fun next later same => ?_
      have depth := (frames_like same).length_eq
      obtain ⟨frames, finished, held, opened, closed⟩ := same
      dsimp only
      rw [← depth]
      exact .ok (.intro frames finished held opened closed)

end Instructions

end WasmLua.Compile
