import WasmLua.Proofs.Fields.Order
import WasmLua.Proofs.Isolation.Linking
import WasmLua.Proofs.Link.Imports

namespace WasmLua.Exec

open Target (Assignment Field Program)

variable {ω : Type}

def Shaped (names : Target.Names) (store : Store ω) (value : Value) : Field → Prop
  | .function _ => ∃ call, value = .function call
  | .memory _ => ∃ memory, store.memory? value = some memory
  | .table _ => ∃ table, store.table? value = some table
  | .ref _ => ∃ owner function key call, value = .ref owner function key call
  | .global index => names.isCell index = true → value.kind = "table"

namespace Instance

def value? (owner : Instance) : Field → Option Value
  | .function index => owner.functions[index]?
  | .memory index => owner.memories[index]?
  | .table index => owner.tables[index]?
  | .ref index => owner.refs[index]?
  | .global index => owner.globals[index]?

def Holds (names : Target.Names) (store : Store ω) (owner : Instance) (field : Field) : Prop :=
  ∃ value, owner.value? field = some value ∧ Shaped names store value field

def Open (owner : Instance) : Field → Prop
  | .function index => index < owner.functions.size
  | .memory index => index = owner.memories.size
  | .table index => index = owner.tables.size
  | .ref index => index < owner.refs.size
  | .global index => index = owner.globals.size

lemma put_here (owner : Instance) (value : Value) (field : Field) (place : owner.Open field) :
    (owner.put value field).value? field = some value := by
  cases field with
  | function index | ref index => exact Array.getElem?_setIfInBounds_self_of_lt place
  | memory index | table index | global index =>
    cases place
    exact Array.getElem?_push_size

variable {values : Array Value} {value found : Value} {index : Nat}

lemma pushed_others (held : values[index]? = some found) : (values.push value)[index]? = some found := by
  obtain ⟨inside, same⟩ := Array.getElem?_eq_some_iff.mp held
  rw [Array.getElem?_push_lt inside, same]

lemma put_others (other : place ≠ index) (held : values[index]? = some found) :
    (values.setIfInBounds place value)[index]? = some found := by
  rw [Array.getElem?_setIfInBounds_ne other, held]

lemma put_keeps (owner : Instance) (value found : Value) (field other : Field) (apart : other ≠ field)
    (held : owner.value? other = some found) : (owner.put value field).value? other = some found := by
  cases field with
  | function index =>
    cases other with
    | function place => exact put_others (fun same => apart (by rw [same])) held
    | _ => exact held
  | ref index =>
    cases other with
    | ref place => exact put_others (fun same => apart (by rw [same])) held
    | _ => exact held
  | memory index =>
    cases other with
    | memory place => exact pushed_others held
    | _ => exact held
  | table index =>
    cases other with
    | table place => exact pushed_others held
    | _ => exact held
  | global index =>
    cases other with
    | global place => exact pushed_others held
    | _ => exact held

end Instance

variable {value : Value} {field : Field}

section Shapes

variable {names : Target.Names} {store after : Store ω}

section

variable (extended : Store.Extends store after)

include extended

lemma object_extends (held : store.object? value = some object) : after.object? value = some object := by
  cases value with
  | object address => exact Link.extends_object extended held
  | _ => cases held

lemma found_extends :
    (∀ memory, store.memory? value = some memory → after.memory? value = some memory) ∧
      ∀ table, store.table? value = some table → after.table? value = some table := by
  unfold Store.memory? Store.table?
  cases found : store.object? value with
  | none => exact ⟨nofun, nofun⟩
  | some object =>
    rw [object_extends extended found]
    exact ⟨fun _ => id, fun _ => id⟩

lemma shaped_extends (shaped : Shaped names store value field) :
    Shaped names after value field := by
  cases field with
  | memory index =>
    obtain ⟨memory, held⟩ := shaped
    exact ⟨memory, (found_extends extended).1 _ held⟩
  | table index =>
    obtain ⟨table, held⟩ := shaped
    exact ⟨table, (found_extends extended).2 _ held⟩
  | _ => exact shaped

lemma holds_extends {owner : Instance}
    (holds : owner.Holds names store field) : owner.Holds names after field := by
  obtain ⟨value, held, shaped⟩ := holds
  exact ⟨value, held, shaped_extends extended shaped⟩

end

end Shapes

namespace Link

open Execution Store List

variable {α : Type} {owner : Instance} {store after : Store ω} {limits : Wasm.Limits}
  {provision : Target.Provision} {field : Field} {value : Value} {assignment : Assignment}

section Supplied

variable {imports : Imports} {origin : Wasm.Import} {value : Value}

lemma find_function_shaped (found : findFunction imports origin = .ok value) : ∃ call, value = .function call := by
  obtain ⟨supplied, -, taken⟩ := Compile.bind_ok found
  cases supplied <;> cases taken
  exact ⟨_, rfl⟩

lemma find_global_shaped (found : findGlobal imports origin = .ok value) : value.kind = "table" := by
  obtain ⟨supplied, -, taken⟩ := Compile.bind_ok found
  cases supplied <;> cases taken <;> rfl

lemma taken_ok (ran : ofExcept result store = .ok found after) :
    result = .ok found ∧ after = store := by
  cases result with
  | error raised => cases ran
  | ok made =>
    cases ran
    exact ⟨rfl, rfl⟩

lemma allocated_object (ran : allocate body slot store = .ok value after) :
    (∃ address, value = .object address) ∧ after.object? value = some ⟨slot, body⟩ := by
  cases ran
  exact ⟨⟨_, rfl⟩, Array.getElem?_push_size⟩

lemma memory_shaped (ran : memory imports provision store = .ok value after) : ∃ memory, after.memory? value = some memory := by
  cases provision with
  | imported origin limits =>
    obtain ⟨found, rfl⟩ := taken_ok ran
    obtain ⟨supplied, present, -⟩ := Compile.bind_ok found
    rw [find_memory_of _ limits present] at found
    cases held : Store.memory? _ supplied with
    | none =>
      rw [held] at found
      cases found
    | some memory =>
      simp only [held] at found
      split at found <;> cases found
      exact ⟨memory, held⟩
  | created initial maximum =>
    simp only [memory] at ran
    split at ran
    · cases ran
    · obtain ⟨-, held⟩ := allocated_object ran
      rw [Store.memory?, held]
      exact ⟨_, rfl⟩

lemma table_shaped (ran : table imports provision store = .ok value after) : ∃ table, after.table? value = some table := by
  cases provision with
  | imported origin limits =>
    obtain ⟨found, rfl⟩ := taken_ok ran
    obtain ⟨supplied, present, -⟩ := Compile.bind_ok found
    rw [find_table_of _ limits present] at found
    cases held : Store.table? _ supplied with
    | none =>
      rw [held] at found
      cases found
    | some table =>
      simp only [held] at found
      split at found <;> cases found
      exact ⟨table, held⟩
  | created initial maximum =>
    simp only [table] at ran
    split at ran
    · cases ran
    · obtain ⟨-, held⟩ := allocated_object ran
      rw [Store.table?, held]
      exact ⟨_, rfl⟩

lemma global_shaped (ran : globalValue program imports owner index init store = .ok value after)
    (cell : program.isCell index = true) : value.kind = "table" := by
  cases init with
  | imported origin =>
    obtain ⟨found, -⟩ := taken_ok ran
    exact find_global_shaped found
  | created init =>
    obtain ⟨made, middle, -, rest⟩ := bind_succeeded _ ran
    rw [if_pos cell] at rest
    obtain ⟨⟨address, rfl⟩, -⟩ := allocated_object rest
    rfl

lemma ref_shaped (id : Nat)
    (plain : ∀ table index key, init.callee ≠ .element table index key)
    (held : ∀ field ∈ init.callee.fields, owner.Holds names store field) :
    Shaped names store (refValue id owner init) (.ref init.function) := by
  unfold refValue
  cases callee : init.callee with
  | defined function => exact ⟨_, _, _, _, rfl⟩
  | imported function =>
    rw [callee] at held
    obtain ⟨found, here, call, rfl⟩ := held (.function function) mem_cons_self
    have taken : owner.functions.getD function .null = .function call := by
      rw [Array.getD_eq_getD_getElem?]
      exact congrArg (Option.getD · Value.null) here
    rw [functionValue, taken]
    exact ⟨_, _, _, _, rfl⟩
  | element table index key => exact absurd callee (plain table index key)

end Supplied

section Progress

/-- An instance in the making, behind the assignments of the fields that are done. -/
structure Progress (program : Program) (done : List Field) (owner : Instance) (store : Store ω) :
    Prop where
  functions : owner.functions.size = program.functionNames.length
  refs : owner.refs.size = program.functionNames.length
  memories : owner.memories.size = done.countP Field.isMemory
  tables : owner.tables.size = done.countP Field.isTable
  globals : owner.globals.size = done.countP Field.isGlobal
  holds : ∀ field ∈ done, owner.Holds program.toNames store field

variable {program : Program} {done : List Field} {owner : Instance} {store after : Store ω}

lemma progress_start : Progress program [] (.empty program.functionNames.length) store :=
  ⟨Array.size_replicate, Array.size_replicate, rfl, rfl, rfl, forall_mem_nil _⟩

lemma progress_opens (progress : Progress program done owner store) (places : program.Places done field) : owner.Open field := by
  cases field with
  | function index => exact Nat.lt_of_lt_of_eq places progress.functions.symm
  | ref index => exact Nat.lt_of_lt_of_eq places progress.refs.symm
  | memory index => exact Eq.trans places progress.memories.symm
  | table index => exact Eq.trans places progress.tables.symm
  | global index => exact Eq.trans places progress.globals.symm

lemma progress_put (progress : Progress program done owner store) (extended : Extends store after)
    (places : program.Places done field) (shaped : Shaped program.toNames after value field) :
    Progress program (done ++ [field]) (owner.put value field) after := by
  have here : (owner.put value field).Holds program.toNames after field :=
    ⟨value, owner.put_here value field (progress_opens progress places), shaped⟩
  have holds (other : Field) (member : other ∈ done ++ [field]) : (owner.put value field).Holds program.toNames after other := by
    by_cases same : other = field
    · exact same ▸ here
    · have early : other ∈ done := by simpa [same] using member
      obtain ⟨found, held, kept⟩ := holds_extends extended (progress.holds other early)
      exact ⟨found, owner.put_keeps value found field other same held, kept⟩
  obtain ⟨functions, refs, memories, tables, globals, -⟩ := progress
  cases field <;>
    exact ⟨by simp [Instance.put, functions], by simp [Instance.put, refs],
      by simp [Instance.put, memories, Field.isMemory], by simp [Instance.put, tables, Field.isTable],
      by simp [Instance.put, globals, Field.isGlobal], holds⟩

variable (imports : Imports) (id : Nat)

lemma supply_extends (program : Program) (owner : Instance) (assignment : Assignment) (base : Store ω) :
    Leads (Extends base) (fun _ => Extends base) (fun _ => Extends base) (supply program imports id owner assignment) :=
  supply_leads ⟨fun need _ => resolution_extends imports need, fun _ _ _ extended => extended,
    fun _ created => allocate_leads (created_measured created), fun _ _ _ extended => extended,
    fun _ init _ => evaluate_leads ⟨extends_pairs base, fun _ _ extended => extended⟩ init,
    fun _ => allocate_leads trivial⟩

lemma supply_shaped (closed : program.Closed) (listed : assignment ∈ program.assignments)
    (held : ∀ field ∈ assignment.reads, owner.Holds program.toNames store field)
    (ran : supply program imports id owner assignment store = .ok value after) :
    Shaped program.toNames after value assignment.field := by
  cases assignment with
  | function index origin => exact find_function_shaped (taken_ok ran).1
  | memory index provision => exact memory_shaped ran
  | table index provision => exact table_shaped ran
  | global index init => exact global_shaped ran
  | ref init =>
    cases ran
    refine ref_shaped id ?_ held
    intro table index key callee
    have member : init ∈ program.refs := by
      simpa [Program.assignments, Program.functionSteps, Program.memorySteps, Program.tableSteps,
        Program.refSteps, Program.globalSteps, mem_mapIdx] using listed
    obtain ⟨entry, -, same⟩ := (closed.refs init member).2 (.table table.toNat) (by rw [callee]; exact mem_cons_self)
    cases same

lemma assign_progress (closed : program.Closed) (listed : assignment ∈ program.assignments)
    (ready : program.Ready done assignment) :
    Delivers (Progress program done owner) (Progress program (done ++ [assignment.field]))
      (assign program imports id owner assignment : Execution ω Instance) := by
  intro store progress
  refine leads_bind (fun start same => ?_) (fun _ _ done => done) store rfl
  subst same
  cases supplied : supply program imports id owner assignment store with
  | error raised after => trivial
  | ok value after =>
    have extended := supply_extends imports id program owner assignment store store (extends_refl store)
    rw [supplied] at extended
    have held (field : Field) (read : field ∈ assignment.reads) := progress.holds field (ready.reads field read)
    exact progress_put progress extended ready.places (supply_shaped imports id closed listed held supplied)

lemma assign_all_progress (closed : program.Closed)
    (listed : assignments ⊆ program.assignments) (done : List Field) (owner : Instance)
    (orderly : program.Orderly done assignments) :
    Delivers (Progress program done owner) (Progress program (done ++ assignments.map (·.field)))
      (assignments.foldlM (assign program imports id) owner : Execution ω Instance) := by
  induction assignments generalizing done owner with
  | nil =>
    rw [map_nil, append_nil]
    exact fun _ progress => progress
  | cons assignment rest ih =>
    rw [foldlM_cons, map_cons, append_cons]
    refine leads_bind (assign_progress imports id closed (listed mem_cons_self) orderly.1) fun next => ?_
    exact ih (fun _ member => listed (mem_cons_of_mem _ member)) _ next orderly.2

lemma step_finds (closed : program.Closed)
    (here : program.steps = before ++ step :: rest)
    (ran : (before.filterMap Target.Step.assignment?).foldlM (assign program imports id)
      (.empty program.functionNames.length) store = .ok owner after) :
    ∀ field ∈ step.reads, owner.Holds program.toNames after field := by
  have split := program.steps_assign
  rw [here, filterMap_append] at split
  have orderly := closed.orderly
  rw [← split, Program.orderly_append] at orderly
  have listed : before.filterMap Target.Step.assignment? ⊆ program.assignments := split ▸ subset_append_left _ _
  have progress := leads_ok (assign_all_progress imports id closed listed [] _ orderly.1) progress_start ran
  intro field read
  obtain ⟨earlier, member, assigns⟩ := closed.sets_first before rest step here field read
  obtain ⟨assignment, known, rfl⟩ := Option.map_eq_some_iff.mp assigns
  exact progress.holds _ (mem_map_of_mem (mem_filterMap.mpr ⟨earlier, member, known⟩))

lemma prepared_holds (closed : program.Closed) (ran : prepare program imports id store = .ok owner after) :
    ∀ field ∈ program.assigned, owner.Holds program.toNames after field := by
  rw [prepare_assigns] at ran
  obtain ⟨made, middle, assigned, ran⟩ := bind_succeeded _ ran
  obtain ⟨_, checked, checks, rest⟩ := bind_succeeded _ ran
  cases rest
  have progress := leads_ok (assign_all_progress imports id closed (List.Subset.refl _) [] _ closed.orderly)
    progress_start assigned
  have extended := extends_of_unchanged (check_unchanged checks)
  intro field member
  obtain ⟨value, held, shaped⟩ := holds_extends extended (progress.holds field member)
  refine ⟨value, ?_, shaped⟩
  cases field <;> exact held

end Progress

end Link

end WasmLua.Exec
