import WasmLua.Proofs.Fields.Mentions

namespace WasmLua.Target

open List

def Field.isMemory : Field → Bool
  | .memory _ => true
  | _ => false

def Field.isTable : Field → Bool
  | .table _ => true
  | _ => false

def Field.isGlobal : Field → Bool
  | .global _ => true
  | _ => false

namespace Program

variable (program : Program)

def assigned : List Field := program.assignments.map (·.field)

structure Closed : Prop where
  functions : ∀ entry ∈ program.functionImports, entry.1 < program.functionNames.length
  refs : ∀ ref ∈ program.refs, ref.function < program.functionNames.length ∧
    ∀ field ∈ ref.callee.fields, ∃ entry ∈ program.functionImports, field = .function entry.1
  globals : ∀ (index : Nat) (init : Constant), program.globals[index]? = some (.created init) →
    ∀ field ∈ init.fields, (∃ ref ∈ program.refs, field = .ref ref.function) ∨
      ∃ earlier < index, field = .global earlier
  uses : ∀ step ∈ program.uses, ∀ field ∈ step.reads, field ∈ program.assigned
  code : ∀ field ∈ program.codeFields, field ∈ program.assigned

/-- The place at which an assignment puts its value. Memories, tables and globals are put behind one another,
so that their number is that of the ones before them. -/
def Places (done : List Field) : Field → Prop
  | .function index => index < program.functionNames.length
  | .ref index => index < program.functionNames.length
  | .memory index => index = done.countP Field.isMemory
  | .table index => index = done.countP Field.isTable
  | .global index => index = done.countP Field.isGlobal

structure Ready (done : List Field) (assignment : Assignment) : Prop where
  places : program.Places done assignment.field
  reads : ∀ field ∈ assignment.reads, field ∈ done

def Orderly : List Field → List Assignment → Prop
  | _, [] => True
  | done, assignment :: rest =>
    program.Ready done assignment ∧ Orderly (done ++ [assignment.field]) rest

variable {program}

lemma orderly_append (done : List Field) {first second : List Assignment} : program.Orderly done (first ++ second) ↔
      program.Orderly done first ∧ program.Orderly (done ++ first.map (·.field)) second := by
  induction first generalizing done with
  | nil => simp [Orderly]
  | cons assignment rest ih => simp [Orderly, ih, and_assoc]

lemma orderly_each (done : List Field) {assignments : List Assignment} (ready : ∀ done', (∀ field ∈ done, field ∈ done') →
      ∀ assignment ∈ assignments, program.Ready done' assignment) : program.Orderly done assignments := by
  induction assignments generalizing done with
  | nil => trivial
  | cons assignment rest ih =>
    refine ⟨ready done (fun _ member => member) assignment mem_cons_self, ih _ ?_⟩
    intro later grown other member
    refine ready later (fun field early => grown field ?_) other (mem_cons_of_mem _ member)
    exact mem_append_left _ early

variable {α : Type} {items : List α}

lemma fields_numbered {make : Nat → α → Assignment} {number : Nat → Field}
    (numbered : ∀ index item, (make index item).field = number index) :
    (items.mapIdx make).map (·.field) = (range items.length).map number := by
  rw [map_numbered]
  simp only [numbered]
  apply ext_getElem?
  intro index
  by_cases inside : index < items.length
  · simp [inside]
  · simp [inside]

lemma orderly_numbered {make : Nat → α → Assignment} (number : Nat → Field)
    (numbered : ∀ index item, (make index item).field = number index) {done : List Field}
    (ready : ∀ index item, items[index]? = some item → program.Ready (done ++ (range index).map number) (make index item)) :
    program.Orderly done (items.mapIdx make) := by
  -- By induction from the end: the last of the items has all the others before it.
  induction items using reverseRecOn with
  | nil => trivial
  | append_singleton items last ih =>
    rw [mapIdx_concat, orderly_append]
    refine ⟨ih fun index item found => ready index item ?_, ?_, trivial⟩
    · obtain ⟨inside, -⟩ := List.getElem?_eq_some_iff.mp found
      rw [List.getElem?_append_left inside, found]
    · rw [fields_numbered numbered]
      exact ready items.length last List.getElem?_concat_length

variable (program)

def functionFields : List Field := program.functionImports.map fun entry => .function entry.1

def refFields : List Field := program.refs.map fun ref => .ref ref.function

lemma function_fields : program.functionSteps.map (·.field) = program.functionFields := map_map

lemma ref_fields : program.refSteps.map (·.field) = program.refFields := map_map

lemma memory_fields : program.memorySteps.map (·.field) = (range program.memories.length).map .memory :=
  fields_numbered (fun _ _ => rfl)

lemma table_fields : program.tableSteps.map (·.field) = (range program.tables.length).map .table :=
  fields_numbered (fun _ _ => rfl)

lemma global_fields : program.globalSteps.map (·.field) = (range program.globals.length).map .global :=
  fields_numbered (fun _ _ => rfl)

lemma assigned_eq : program.assigned = program.functionFields ++ (range program.memories.length).map .memory
    ++ (range program.tables.length).map .table ++ program.refFields ++ (range program.globals.length).map .global := by
  simp only [assigned, assignments, map_append, function_fields, memory_fields, table_fields, ref_fields, global_fields]

lemma mem_assigned (field : Field) : field ∈ program.assigned ↔
    match field with
    | .function index => ∃ entry ∈ program.functionImports, entry.1 = index
    | .memory index => index < program.memories.length
    | .table index => index < program.tables.length
    | .ref index => ∃ ref ∈ program.refs, ref.function = index
    | .global index => index < program.globals.length := by
  rw [assigned_eq]
  cases field <;> simp [functionFields, refFields]

variable {program}

lemma Closed.orderly (closed : program.Closed) : program.Orderly [] program.assignments := by
  simp only [assignments, orderly_append, map_append, function_fields, memory_fields, table_fields, ref_fields, nil_append]
  refine ⟨⟨⟨⟨?_, ?_⟩, ?_⟩, ?_⟩, ?_⟩
  · apply orderly_each
    intro done _ assignment member
    obtain ⟨entry, listed, rfl⟩ := mem_map.mp member
    exact ⟨closed.functions entry listed, forall_mem_nil _⟩
  · refine orderly_numbered .memory (fun _ _ => rfl) fun index provision _ => ?_
    refine ⟨?_, forall_mem_nil _⟩
    simp [Places, Assignment.field, functionFields, countP_map, Function.comp_def, Field.isMemory]
  · refine orderly_numbered .table (fun _ _ => rfl) fun index provision _ => ?_
    refine ⟨?_, forall_mem_nil _⟩
    simp [Places, Assignment.field, functionFields, countP_map, Function.comp_def, Field.isTable]
  · apply orderly_each
    intro done grown assignment member
    obtain ⟨ref, listed, rfl⟩ := mem_map.mp member
    obtain ⟨inside, callee⟩ := closed.refs ref listed
    refine ⟨inside, fun field read => grown field ?_⟩
    obtain ⟨entry, imported, rfl⟩ := callee field read
    exact mem_append_left _ (mem_append_left _ (mem_map_of_mem imported))
  · refine orderly_numbered .global (fun _ _ => rfl) fun index init found => ⟨?_, ?_⟩
    · simp [Places, Assignment.field, functionFields, refFields, countP_map, Function.comp_def, Field.isGlobal]
    · intro field read
      cases init with
      | imported origin => cases read
      | created init =>
        rcases closed.globals index init found field read with ⟨ref, listed, rfl⟩ | ⟨earlier, below, rfl⟩
        · exact mem_append_left _ (mem_append_right _ (mem_map_of_mem listed))
        · exact mem_append_right _ (mem_map_of_mem (mem_range.mpr below))

lemma assigned_before {field : Field} {listed : List Assignment} (member : field ∈ listed.map (·.field)) :
    ∃ earlier ∈ listed.map Step.assign, earlier.assigns = some field := by
  obtain ⟨assignment, inside, rfl⟩ := mem_map.mp member
  exact ⟨.assign assignment, mem_map_of_mem inside, rfl⟩

lemma Closed.sets_first (closed : program.Closed) (before after : List Step) (step : Step)
    (here : program.steps = before ++ step :: after) :
    ∀ field ∈ step.reads, ∃ earlier ∈ before, earlier.assigns = some field := by
  intro field read
  rw [steps_eq] at here
  have behind (late : step ∈ program.uses) (all : program.assignments.map Step.assign ⊆ before) :
      ∃ earlier ∈ before, earlier.assigns = some field := by
    obtain ⟨earlier, member, assigns⟩ := assigned_before (closed.uses step late field read)
    exact ⟨earlier, all member, assigns⟩
  rcases append_eq_append_iff.mp here with ⟨rest, early, late⟩ | ⟨rest, early, late⟩
  · refine behind (late ▸ mem_append_right _ mem_cons_self) ?_
    exact early ▸ subset_append_left _ _
  · cases rest with
    | nil =>
      rw [nil_append] at late
      refine behind (late ▸ mem_cons_self) ?_
      rw [early, append_nil]
      exact List.Subset.refl _
    | cons first rest =>
      cases late
      obtain ⟨front, back, split, rfl, tail⟩ := map_eq_append_iff.mp early
      obtain ⟨assignment, others, rfl, rfl, -⟩ := map_eq_cons_iff.mp tail
      have orderly := closed.orderly
      rw [split, orderly_append] at orderly
      exact assigned_before (orderly.2.1.reads field read)

end Program

end WasmLua.Target
