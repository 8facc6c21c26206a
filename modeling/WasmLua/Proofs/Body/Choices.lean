import WasmLua.Proofs.Body.ControlFlow

namespace WasmLua.Compile

open BodyState
open List
open Target (Machine Operand machineMeaning)
open Wasm (Config Result Semantics)

variable {ε S V : Type} {meaning : Semantics ε S V} {view : View meaning} {context : BodyContext}
  {before middle after : BodyState} {index : Taken} {depth otherwise : Int64} {labels : List Int64}

namespace BodyState

def withConstant (state : BodyState) (value : Int32) : BodyState :=
  { state with stack := ⟨.i32, some (.atom (.i32 value))⟩ :: state.stack }

variable {state : BodyState}

lemma constant_pops (low : state.height ≤ state.stack.length) (value : Int32) :
    (state.withConstant value).pop = .ok (⟨.i32, .atom (.i32 value)⟩, state) :=
  if_neg (Nat.not_lt.mpr low)

/-- A branch to `depth` has a target, and there are enough values for it. -/
def Reaches (state : BodyState) (depth : Int64) : Prop :=
  0 ≤ depth.toInt ∧ ∃ arity, (state.frames.map Frame.arity)[depth.toInt.toNat]? = some arity ∧
    arity + state.height ≤ state.stack.length

lemma branch_reaches : state.Reaches depth ↔ ∃ code after, state.branch depth = .ok (code, after) := by
  constructor
  · rintro ⟨positive, arity, found, enough⟩
    rw [getElem?_map, Option.map_eq_some_iff] at found
    obtain ⟨frame, found, rfl⟩ := found
    have top : ∀ fault, state.topOperands frame.arity fault = .ok (state.stack.top frame.arity) :=
      fun fault => if_neg (Nat.not_lt.mpr enough)
    unfold branch
    simp only [if_neg (Int.not_lt.mpr positive), found, top]
    repeat' split
    all_goals exact ⟨_, _, rfl⟩
  · rintro ⟨code, after, done⟩
    obtain ⟨positive, frame, found, enough, _⟩ := branch_ok done
    exact ⟨positive, frame.arity, by rw [getElem?_map, found, Option.map_some], enough⟩

lemma reaches_kept {first second : BodyState} (keeps : List.Forall₂ Frame.Keeps first.frames second.frames)
    (stack : second.stack = first.stack) (reaches : second.Reaches depth) : first.Reaches depth := by
  unfold Reaches height at *
  rw [stack] at reaches
  generalize first.frames = frames, second.frames = others at *
  have arities : others.map Frame.arity = frames.map Frame.arity := by
    clear reaches
    induction keeps with
    | nil => rfl
    | cons here rest ih => rw [map_cons, map_cons, here.arity, ih]
  rw [arities] at reaches
  cases keeps with
  | nil => exact reaches
  | cons here rest =>
    simp only [here.height] at reaches
    exact reaches

lemma arms_reach {operand : Operand} {runs : List Run} {arms : Target.Arms} (state : BodyState)
    (done : tableArms operand otherwise runs state = .ok (arms, after)) :
    state.Reaches otherwise ∧ ∀ run ∈ runs, state.Reaches run.label := by
  induction runs generalizing state arms after with
  | nil =>
    obtain ⟨⟨code, last⟩, branched, _⟩ := bind_ok done
    exact ⟨branch_reaches.mpr ⟨_, _, branched⟩, forall_mem_nil _⟩
  | cons run runs ih =>
    obtain ⟨⟨code, middle⟩, branched, done⟩ := bind_ok done
    obtain ⟨⟨rest, last⟩, remaining, done⟩ := bind_ok done
    have steers := branch_steers branched
    obtain ⟨default, others⟩ := ih middle remaining
    refine ⟨reaches_kept steers.keeps steers.stack default, forall_mem_cons.mpr ⟨?_, ?_⟩⟩
    · exact branch_reaches.mpr ⟨_, _, branched⟩
    · intro other member
      exact reaches_kept steers.keeps steers.stack (others other member)

lemma jump_reaches : state.Reaches depth ↔ ∃ after, state.jump depth = .ok after := by
  rw [branch_reaches]
  constructor
  · rintro ⟨code, after, done⟩
    exact ⟨_, by rw [jump, done]; rfl⟩
  · rintro ⟨after, done⟩
    obtain ⟨⟨code, last⟩, branched, _⟩ := bind_ok done
    exact ⟨code, last, branched⟩

lemma runs_apart (start : Nat) (labels : List Int64) :
    (runs start labels).Pairwise fun first second => first.last < second.first := by
  induction labels generalizing start with
  | nil => exact .nil
  | cons label rest ih =>
    have apart := ih (start + 1)
    rw [runs]
    split
    · rename_i head tail following
      rw [following] at apart
      obtain ⟨below, others⟩ := pairwise_cons.mp apart
      split
      · exact pairwise_cons.mpr ⟨below, others⟩
      · refine pairwise_cons.mpr ⟨?_, apart⟩
        intro run member
        exact (runs_cover (start + 1) run (following ▸ member)).1
    · exact pairwise_singleton _ _

lemma tests_apart (meaning : Semantics ε S V) (machine : Machine S V) (operand : Operand)
    (labels : List Int64) : ((runs 0 labels).filter fun run => machine.holds meaning (run.test operand)).length ≤ 1 := by
  have apart := (runs_apart 0 labels).filter fun run => machine.holds meaning (run.test operand)
  have holds : ∀ run ∈ (runs 0 labels).filter fun run => machine.holds meaning (run.test operand),
      machine.holds meaning (run.test operand) = true := fun run member => (mem_filter.mp member).2
  generalize (runs 0 labels).filter _ = held at apart holds
  cases held with
  | nil => exact Nat.zero_le 1
  | cons first rest =>
    cases rest with
    | nil => exact Nat.le_refl 1
    | cons second rest =>
      have before := (pairwise_cons.mp apart).1 second mem_cons_self
      have low := (run_test meaning machine operand first).mp (holds first mem_cons_self)
      have high := (run_test meaning machine operand second).mp (holds second (mem_cons_of_mem _ mem_cons_self))
      omega

lemma table_reaches (bounded : labels.length ≤ 2 ^ 31) (popped : before.pop = .ok (index, middle))
    (varies : index.constant? = none) (done : before.branchTable labels otherwise = .ok after)
    (value : Int32) : middle.Reaches (Wasm.selected labels otherwise value) := by
  have picked := picked_selected (fun run => decide ((run.first : Int) ≤ value.toInt ∧ value.toInt ≤ run.last)) value otherwise
    (fun run => decide_eq_true_iff) bounded
  rw [branchTable, popped] at done
  simp only [bind, Except.bind, varies] at done
  rw [← picked, BodyState.picked]
  split at done
  · rename_i none
    rw [none]
    exact jump_reaches.mpr ⟨after, done⟩
  · obtain ⟨⟨arms, last⟩, tested, _⟩ := bind_ok done
    obtain ⟨default, others⟩ := arms_reach middle tested
    cases found : find? _ _ with
    | none => exact default
    | some run => exact others run (mem_of_find?_eq_some found)

end BodyState

/-- Statements that take `before` to `after` and end as `run` says, wherever they start. -/
def Runs (view : View meaning) (before after : BodyState) (run : Machine S V → Result ε S V) : Prop :=
  ∃ code, Emits before.frames after.frames code ∧ ∀ machine, Agrees meaning after (run machine) (view.watch code none machine)

/-- The instruction does what `choice` says of the word that it takes, and with a constant in the place
of that word it is compiled too and does what `choice` says of the constant. -/
def Folds (view : View meaning) (before middle : BodyState) (index : Operand)
    (compile : BodyState → Except StackFault BodyState) (choice : Int32 → Config S V → Result ε S V) : Prop :=
  ∀ after, compile before = .ok after → Runs view before after (fun machine =>
      choice (meaning.word (machine.read meaning index)) (middle.config meaning machine)) ∧
    ∀ value, ∃ folded, compile (middle.withConstant value) = .ok folded ∧
      Runs view (middle.withConstant value) folded fun machine => choice value (middle.config meaning machine)

section Folding

variable (wellformed : Wellformed context before) (live : before.Live) (popped : before.pop = .ok (index, middle))

include wellformed live popped

lemma folds_of {compile : BodyState → Except StackFault BodyState} {choice : Int32 → Config S V → Result ε S V}
    (simulates : ∀ start after, Wellformed context start → start.Live → start.frames = before.frames →
      compile start = .ok after → ∃ code, Simulates context view start after 0
        (fun config => config.pop fun value config => choice (meaning.word value) config) code)
    (folds : ∀ after, compile before = .ok after → ∀ value, ∃ folded, compile (middle.withConstant value) = .ok folded) :
    Folds view before middle index.operand compile choice := by
  have inside := popped_wellformed wellformed popped
  have frames : middle.frames = before.frames := by rw [(pop_takes popped).moved]
  intro after done
  constructor
  · obtain ⟨code, simulated⟩ := simulates before after wellformed live rfl done
    refine ⟨code, simulated.emits, ?_⟩
    intro machine
    have follows := simulated.follows machine
    rw [config_pop popped] at follows
    exact follows
  · intro value
    obtain ⟨folded, made⟩ := folds after done value
    have alive : middle.Live := by
      obtain ⟨top, outer, opened, reached⟩ := live
      exact ⟨top, outer, frames.trans opened, reached⟩
    obtain ⟨_, pushed⟩ := deferred_simulates view inside alive
      (fun config => .next (config.push (meaning.constant (.i32 value)))) .i32 (.atom (.i32 value)) nofun
      fun machine => rfl
    obtain ⟨nested, settled, fixed, skipped⟩ := pushed.wellformed
    obtain ⟨code, simulated⟩ := simulates (middle.withConstant value) folded ⟨nested, settled, fixed, skipped⟩ alive frames made
    refine ⟨folded, made, code, simulated.emits, ?_⟩
    intro machine
    have word : meaning.word (machine.read meaning (.atom (.i32 value))) = value := meaning.word_constant value
    have follows := simulated.follows machine
    rw [config_pop (constant_pops (wellformed_low inside) value), word] at follows
    exact follows

lemma table_folds (varies : index.constant? = none) (bounded : labels.length < 2 ^ 31)
    (marked : ∀ label ∈ labels ++ [otherwise], Marked context.targeted (before.frames.map (·.label)) label) :
    Folds view before middle index.operand (·.branchTable labels otherwise) fun value config =>
      config.jump (Wasm.selected labels otherwise value) := by
  refine folds_of wellformed live popped ?_ ?_
  · intro start after wellformed live frames done
    exact branch_table_simulates view wellformed live (Nat.le_of_lt bounded) (frames ▸ marked) done
  · intro after done value
    have reaches := table_reaches (Nat.le_of_lt bounded) popped varies done value
    obtain ⟨folded, jumped⟩ := jump_reaches.mp reaches
    have low := wellformed_low (popped_wellformed wellformed popped)
    refine ⟨folded, ?_⟩
    rw [branchTable, constant_pops low]
    exact jumped

lemma branch_if_folds (varies : index.constant? = none) (marked : Marked context.targeted (before.frames.map (·.label)) depth) :
    Folds view before middle index.operand (·.branchIf depth) fun value config =>
      if value = 0 then .next config else config.jump depth := by
  refine folds_of wellformed live popped ?_ ?_
  · intro start after wellformed live frames done
    exact branch_if_simulates view wellformed live (frames ▸ marked) done
  · intro after done value
    have low := wellformed_low (popped_wellformed wellformed popped)
    rw [branchIf, popped] at done
    simp only [bind, Except.bind, varies] at done
    obtain ⟨⟨code, last⟩, branched, _⟩ := bind_ok done
    obtain ⟨folded, jumped⟩ := jump_reaches.mp (branch_reaches.mpr ⟨_, _, branched⟩)
    rw [branchIf, constant_pops low]
    by_cases zero : value == 0
    · exact ⟨middle, if_pos zero⟩
    · exact ⟨folded, (if_neg zero).trans jumped⟩

lemma select_folds : Folds view before middle index.operand (·.select) fun value config =>
      config.pop fun second config => config.pop fun first config =>
        .next (config.push (if value = 0 then second else first)) := by
  refine folds_of wellformed live popped ?_ ?_
  · intro start after wellformed live frames done
    exact select_simulates view wellformed live done
  · intro after done value
    have low := wellformed_low (popped_wellformed wellformed popped)
    obtain ⟨⟨word, under⟩, taken, done⟩ := bind_ok done
    cases popped.symm.trans taken
    obtain ⟨⟨second, lower⟩, next, done⟩ := bind_ok done
    obtain ⟨⟨first, bottom⟩, last, done⟩ := bind_ok done
    rw [select, constant_pops low]
    simp only [bind, Except.bind, next, last]
    by_cases zero : value != 0
    · exact ⟨_, if_pos zero⟩
    · exact ⟨_, if_neg zero⟩

end Folding

/-- A branch table, a conditional branch and a choice between two values do what the word that they take says. With a
constant in its place they are compiled to what it selects. -/
theorem choices_fold (view : View meaning) (wellformed : Wellformed context before) (live : before.Live)
    (popped : before.pop = .ok (index, middle)) (varies : index.constant? = none) : (∀ labels otherwise, labels.length < 2 ^ 31 →
      (∀ label ∈ labels ++ [otherwise], Marked context.targeted (before.frames.map (·.label)) label) →
      Folds view before middle index.operand (·.branchTable labels otherwise) fun value config =>
        config.jump (Wasm.selected labels otherwise value)) ∧
    (∀ labels (machine : Machine S V), ((BodyState.runs 0 labels).filter fun run =>
      machine.holds meaning (run.test index.operand)).length ≤ 1) ∧ (∀ depth, Marked context.targeted (before.frames.map (·.label)) depth →
      Folds view before middle index.operand (·.branchIf depth) fun value config =>
        if value = 0 then .next config else config.jump depth) ∧
    Folds view before middle index.operand (·.select) fun value config =>
      config.pop fun second config => config.pop fun first config =>
        .next (config.push (if value = 0 then second else first)) :=
  ⟨fun _ _ bounded marked => table_folds wellformed live popped varies bounded marked,
    fun labels machine => BodyState.tests_apart meaning machine index.operand labels,
    fun _ marked => branch_if_folds wellformed live popped varies marked,
    select_folds wellformed live popped⟩

/-- In a block inside the function, with a word in the lowest slot. -/
def waiting : BodyState :=
  { initial [] with
    stack := [⟨.i32, none⟩]
    frames := [.opening .block 1 0 ⟨[], []⟩ true, .opening .function 0 0 ⟨[], []⟩ false]
    nextLabel := 2 }

theorem waiting_folds : (waiting.branchTable [0, 1, 0, 0] 1).isOk ∧
    Folds (.unflagged (fun _ => machineMeaning counting) 1 rfl) waiting { waiting with stack := [] } (.slot 0)
      (·.branchTable [0, 1, 0, 0] 1) fun value config =>
        config.jump (Wasm.selected [0, 1, 0, 0] 1 value) := by
  have nested : Nested ⟨.empty, Wasm.Module.empty.scopeWith [], [], [1]⟩ waiting.frames 1 2 :=
    .inside _ _ 1 2 nofun (by decide) (by decide) (Nat.zero_le 1) rfl
      (.function _ 0 1 rfl rfl rfl rfl rfl (by decide))
  refine ⟨by decide, (choices_fold _ ⟨nested, ⟨nofun, trivial⟩, ⟨nofun, trivial⟩, rfl⟩
    ⟨_, _, rfl, rfl⟩ rfl rfl).1 [0, 1, 0, 0] 1 (by decide) ?_⟩
  have first : Marked [1] [1, 0] 0 := ⟨by decide, 1, rfl, .inr mem_cons_self⟩
  have second : Marked [1] [1, 0] 1 := ⟨by decide, 0, rfl, .inl rfl⟩
  intro label member
  simp only [cons_append, nil_append, mem_cons, not_mem_nil, or_false] at member
  rcases member with rfl | rfl | rfl | rfl | rfl
  all_goals assumption

end WasmLua.Compile
