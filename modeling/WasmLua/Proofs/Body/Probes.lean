import WasmLua.Proofs.Body.Compilation
import WasmLua.Proofs.Body.Likeness

/-!
Code without its probes. A probe among the statements of a block changes nothing but that it is
there: without their probes the statements are those that are emitted where no mark stands.
-/

namespace WasmLua.Target

mutual

def Stmt.erase? : Stmt → Option Stmt
  | .act (.move []) => none
  | .choose arms => some (.choose arms.erase)
  | .once body => some (.once body.erase)
  | .forever body => some (.forever body.erase)
  | other => some other

def Block.erase : Block → Block
  | .done => .done
  | .next first rest =>
    match first.erase? with
    | some first => .next first rest.erase
    | none => rest.erase

def Arms.erase : Arms → Arms
  | .none => .none
  | .otherwise body => .otherwise body.erase
  | .arm condition body rest => .arm condition body.erase rest.erase

end

@[simp] lemma erase_of_list {code : List Stmt} : (Block.ofList code).erase = .ofList (code.filterMap Stmt.erase?) := by
  induction code with
  | nil => rfl
  | cons first rest ih =>
    rw [Block.ofList, Block.erase, List.filterMap_cons, ih]
    cases first.erase? <;> rfl

end WasmLua.Target

namespace WasmLua.Compile

open Target (Block Stmt)
open Wasm (Instruction)

def eraseAll (code : List Stmt) : List Stmt := code.filterMap Stmt.erase?

def Frame.erase (frame : Frame) : Frame :=
  { frame with
    thenArm := frame.thenArm.map fun (arm, reachable) => (arm.erase, reachable)
    code := eraseAll frame.code }

lemma erase_plain {stmt : Stmt} (plain : Plain stmt) : stmt.erase? = some stmt := by
  cases stmt with
  | act action =>
    unfold Stmt.erase?
    split
    · rename_i same
      cases same
      exact absurd rfl plain
    all_goals simp_all
  | choose | once | forever => cases plain
  | _ => rfl

def erasing : Likeness fun _ => True where
  code first second := eraseAll first = second
  block first second := first.erase = second
  arms first second := first.erase = second
  nil := rfl
  append := by
    rintro first _ second _ rfl rfl
    exact List.filterMap_append
  keep stmt plain _ := List.filterMap_cons_some (erase_plain plain)
  choose := by
    rintro arms _ rfl
    rfl
  once := by
    rintro body _ rfl
    rfl
  forever := by
    rintro body _ rfl
    rfl
  ofList := by
    rintro code _ rfl
    exact Target.erase_of_list
  none := rfl
  otherwise := by
    rintro body _ rfl
    rfl
  arm := by
    rintro condition body _ rest _ _ rfl rfl
    rfl

namespace BodyState

def erase (state : BodyState) : BodyState :=
  { state with frames := state.frames.map Frame.erase, finished := eraseAll state.finished }

lemma erase_like (state : BodyState) : state.Like erasing state.erase := by
  refine .intro _ _ (fun _ _ _ _ _ _ => trivial) ?_ rfl
  refine List.forall₂_map_right_iff.mpr (List.forall₂_same.mpr fun frame _ => ?_)
  refine .intro _ _ List.filterMap_reverse ?_ fun _ _ _ _ => trivial
  cases frame.thenArm with
  | none => exact .none
  | some arm => exact .some ⟨rfl, rfl⟩

lemma like_erased {state other : BodyState} (same : state.Like erasing other) : other = state.erase := by
  obtain ⟨frames, finished, held, opened, closed⟩ := same
  have erased : frames = state.frames.map Frame.erase := by
    generalize state.frames = old at opened
    induction opened with
    | nil => rfl
    | cons here rest ih =>
      obtain ⟨code, thenArm, written, first, condition⟩ := here
      have code : code = eraseAll _ := List.reverse_injective (written.symm.trans List.filterMap_reverse)
      subst code
      rw [List.map_cons, ← ih, Frame.erase]
      generalize Frame.thenArm _ = arm at first
      cases first with
      | none => rfl
      | @some arm other both =>
        obtain ⟨first, reachable⟩ := arm
        obtain ⟨second, _⟩ := other
        obtain ⟨rfl, rfl⟩ := both
        rfl
  rw [erase, ← erased, ← closed]

end BodyState

open BodyState

variable {context : BodyContext} {instruction : Instruction}

lemma erase_step {state : BodyState} :
    stepBody context state.erase instruction = erase <$> stepBody context state instruction := by
  have alike : Alike (Like erasing) (stepBody context state instruction)
      (stepBody context state.erase instruction) := step_like (erase_like state) fun _ _ => trivial
  generalize stepBody context state instruction = result, stepBody context state.erase instruction = image at alike
  cases alike with
  | error fault => rfl
  | ok same =>
    rw [like_erased same]
    rfl

@[simp] lemma erase_observe {state : BodyState} : state.observe.erase = state.erase := by
  unfold observe modifyTop
  cases frames : state.frames with
  | nil => rfl
  | cons frame outer =>
    have shown : (if frame.unreachable then frame else { frame with code := .act probe :: frame.code }).erase = frame.erase := by
      split <;> rfl
    simp only [erase, List.map_cons, shown, frames]

lemma erase_steps (context : BodyContext) (state : BodyState) (words : List (Option Instruction)) :
    steps context state.erase (words.reduceOption.map some) = erase <$> steps context state words := by
  induction words generalizing state with
  | nil => rfl
  | cons word words ih =>
    cases word with
    | none =>
      have marked : steps context state (none :: words) = steps context state.observe words := rfl
      rw [List.reduceOption_cons_of_none, marked, ← ih, erase_observe]
    | some word =>
      rw [List.reduceOption_cons_of_some, List.map_cons, steps, steps, List.foldlM_cons, List.foldlM_cons,
        stepWord, stepWord, erase_step, bind_map_left, map_bind]
      apply bind_congr
      intro next
      exact ih next

end WasmLua.Compile
