import WasmLua.Proofs.Link.Segments
import WasmLua.Proofs.Twin.Calls

namespace WasmLua.Exec.Stage

open Mirror Twin Link

variable {ω ω' : Type} {mirror : Mirror} {stage : Stage mirror ω ω'} {least : Nat} {owner image : Instance}

lemma global_matched (related : stage.related own other)
    (le : limit ≤ stage.count own) (names : Target.Names) (instances : mirror.Instances limit owner image)
    (index : Nat) : Matched (mirror.Shows (stage.count own)) (global names own owner index) (global names other image index) := by
  have shows := shows_mono le (array_getD instances.globals index)
  unfold global
  split
  · have found := stage.object related shows
    dsimp only
    generalize own.object? _ = left at found ⊢
    generalize other.object? _ = right at found ⊢
    cases found with
    | none => exact .error _
    | some objects => exact .ok objects.value
  · exact .ok shows

lemma each_runs_follows {ε σ τ ι : Type} {twin : Twin ε σ τ} {items : List ι}
    {action : ι → EStateM ε σ Unit} {other : ι → EStateM ε τ Unit}
    (each : ∀ item ∈ items, ∀ count, least ≤ count → twin.Follows count Nothing (action item) (other item)) :
    twin.Follows least Nothing (items.forM action) (items.forM other) := by
  induction items generalizing least with
  | nil => exact follows_pure fun _ _ => trivial
  | cons item items ih =>
    obtain ⟨here, later⟩ := List.forall_mem_cons.mp each
    refine follows_bind (here least (Nat.le_refl _)) fun count _ _ le _ => ?_
    exact ih fun item member count' le' => later item member count' (Nat.le_trans le le')

lemma size_matched {segment : Segment} {limit : Nat} {body other : Body}
    (bodies : mirror.Bodies limit body other) : segment.size? other = segment.size? body := by
  cases bodies with
  | table tables => cases segment <;> simp [Segment.size?, mirror.size tables]
  | _ => rfl

variable (instances : mirror.Instances least owner image) include instances

lemma evaluate_follows (names : Target.Names) (constant : Target.Constant) :
    stage.Follows least mirror.Shows (evaluate names owner constant) (evaluate names image constant) := by
  induction constant generalizing least with
  | atom atom =>
    exact follows_counted fun _ le positive =>
      make_follows (atom_makes positive (lists_mono le instances.refs) atom)
  | global index =>
    refine follows_state fun own other related enough => ?_
    exact value_follows (global_matched related enough names instances index)
  | arith type op a b first second =>
    refine follows_bind (first instances) fun count value value' le left => ?_
    refine follows_bind (second (instances_mono le instances)) fun count operand operand' le right => ?_
    refine follows_counted fun later more positive => ?_
    have zero : mirror.Makes later (.held Value.zeroPair) (.held Value.zeroPair) := makes_held (shows_zero_pair positive)
    refine follows_bind (made_follows (integer_matched zero type _
      (shows_mono (Nat.le_trans le more) left) (shows_mono more right))) fun _ _ _ _ makes => ?_
    exact make_follows makes

variable (program : Target.Program)

lemma offset_follows : stage.Follows least Same
      (offset program owner constant) (offset program image constant) := by
  refine follows_bind (evaluate_follows instances _ constant) fun count value other _ shows => ?_
  obtain ⟨-, rfl⟩ := shows
  rw [Value.rename_to_number]
  exact same_follows

variable {index : UInt32}

lemma table_of_follows : stage.Follows least
      (fun count found other => mirror.Shows count found.1 other.1 ∧ mirror.tables count found.2 other.2)
      (tableOf owner index) (tableOf image index) := by
  refine follows_state fun own other related enough => ?_
  have shows := array_getD instances.tables index.toNat
  have found := table_shown related shows
  generalize own.table? _ = left at found ⊢
  generalize other.table? _ = right at found ⊢
  cases found with
  | none => exact follows_throw
  | some tables =>
    exact follows_pure fun _ le => ⟨shows_mono (Nat.le_trans enough le) shows, mirror.larger le tables⟩

lemma memory_of_follows : stage.Follows least (fun count found other => mirror.Shows count found.1 other.1 ∧ other.2 = found.2)
      (memoryOf owner index) (memoryOf image index) := by
  refine follows_state fun own other related enough => ?_
  have shows := array_getD instances.memories index.toNat
  rw [memory_shown related shows]
  cases own.memory? (owner.memories.getD index.toNat .null) with
  | none => exact follows_throw
  | some memory => exact follows_pure fun _ le => ⟨shows_mono (Nat.le_trans enough le) shows, rfl⟩

lemma reach_follows (segment : Segment) : stage.Follows least
      (fun _ found other => other.2 = found.2) (segment.reach owner) (segment.reach image) := by
  refine follows_state fun own other related enough => ?_
  have target : mirror.Shows least (segment.target owner) (segment.target image) := by
    cases segment with
    | element init => exact array_getD instances.tables init.table.toNat
    | data init => exact array_getD instances.memories init.memory.toNat
  have objects := stage.object related target
  unfold Segment.found?
  generalize own.object? _ = left at objects ⊢
  generalize other.object? _ = right at objects ⊢
  cases objects with
  | none => exact follows_throw
  | some objects =>
    simp only [Option.bind_some, size_matched objects.body]
    cases segment.size? _ with
    | none => exact follows_throw
    | some size => exact follows_pure fun _ _ => rfl

lemma check_segments_follow : stage.Follows least Nothing (checkSegments program owner) (checkSegments program image) := by
  rw [Segment.check_segments, Segment.check_segments]
  refine each_runs_follows fun segment _ count le => ?_
  have instances := instances_mono le instances
  refine follows_same (offset_follows instances program) fun count start le => ?_
  refine follows_bind (reach_follows (instances_mono le instances) segment) fun _ found other _ same => ?_
  have length : (segment.items image).length = (segment.items owner).length := by
    cases segment <;> simp [Segment.items]
  simp only [same, length]
  exact except_follows fun _ _ => matched_weaken (fun _ _ _ => trivial) (matched_same _)

lemma element_refs_listed (functions : List (Option Nat)) : mirror.Lists least (functions.map fun
        | some function => owner.refs.getD function .null
        | none => .null) (functions.map fun
        | some function => image.refs.getD function .null
        | none => .null) := by
  refine each_listed functions fun function => ?_
  cases function with
  | none => exact shows_null
  | some function => exact array_getD instances.refs function

lemma write_element_follows (element : Target.ElementInit) :
    stage.Follows least Nothing (writeElement program owner element) (writeElement program image element) := by
  refine each_runs_follows fun piece _ count le => ?_
  obtain ⟨position, functions⟩ := piece
  have instances := instances_mono le instances
  refine follows_same (offset_follows instances program) fun count start le => ?_
  have instances := instances_mono le instances
  refine follows_bind (table_of_follows instances) fun count found other le both => ?_
  have refs := element_refs_listed (instances_mono le instances) functions
  refine follows_bind (except_follows fun _ le => init_matched (mirror.larger le both.2) (lists_mono le refs))
    fun count table table' le' tables => ?_
  exact follows_modify fun own other related enough =>
    table_changed related both.1 (mirror.larger enough tables)

lemma write_data_follows (data : Target.DataInit) :
    stage.Follows least Nothing (writeData program owner data) (writeData program image data) := by
  refine each_runs_follows fun piece _ count le => ?_
  obtain ⟨position, bytes⟩ := piece
  have instances := instances_mono le instances
  refine follows_same (offset_follows instances program) fun count start le => ?_
  refine follows_bind (memory_of_follows (instances_mono le instances)) fun count found other _ both => ?_
  refine follows_same same_follows fun count change _ => ?_
  exact follows_modify fun own other related _ => memory_changed related both.1 change

lemma write_segments_follow : stage.Follows least Nothing (writeSegments program owner) (writeSegments program image) := by
  refine follows_bind (each_runs_follows fun element _ count le => ?_) fun count _ _ le _ =>
    each_runs_follows fun data _ count' le' => ?_
  · exact write_element_follows (instances_mono le instances) program element
  · have more := Nat.le_trans le le'
    exact write_data_follows (instances_mono more instances) program data

end WasmLua.Exec.Stage
