import WasmLua.Proofs.Fields.Bodies
import WasmLua.Proofs.Fields.Running
import WasmLua.Proofs.Safety.Units

namespace WasmLua.Wasm

open Target (Field)

namespace Module

def Has (module : Module) (globals : Nat) : Field → Prop
  | .function index => index < module.functions.length
  | .memory index => index < module.memories.length
  | .table index => index < module.tables.length
  | .ref index => index < module.functions.length
  | .global index => index < globals

instance (module : Module) (globals : Nat) : DecidablePred (module.Has globals)
  | .function _ => Nat.decLt _ _
  | .memory _ => Nat.decLt _ _
  | .table _ => Nat.decLt _ _
  | .ref _ => Nat.decLt _ _
  | .global _ => Nat.decLt _ _

end Module

def Export.field? (item : Export) : Option Field :=
  match item.kind with
  | .func => some (.function item.index.toNat)
  | .table => some (.table item.index.toNat)
  | .memory => some (.memory item.index.toNat)
  | .global => some (.global item.index.toNat)
  | .other _ => none

structure Module.InRange (module : Module) : Prop where
  bodies : ∀ function ∈ module.functions, ∀ instruction ∈ function.body,
    ∀ field ∈ instruction.fields module, module.Has module.globals.length field
  globals : ∀ entry ∈ module.globals.zipIdx, entry.1.origin = none →
    ∀ instruction ∈ entry.1.init, ∀ field ∈ instruction.fields module, module.Has entry.2 field
  exports : ∀ item ∈ module.exports, ∃ field ∈ item.field?, module.Has module.globals.length field

def Module.Shares (module : Module) (index : Nat) : Prop := (∃ global ∈ module.globals[index]?, global.origin.isSome = true) ∨
    ∃ item ∈ module.exports, item.kind = .global ∧ item.index.toNat = index

end WasmLua.Wasm

namespace WasmLua.Target

def Field.valueText (field : Field) (cell : Bool) : String :=
  if cell then field.text ++ ".value" else field.text

/-- Every place of a unit at which a global stands takes it for a cell, or none does. Imports supply cells and
exports hand them on. -/
structure Program.Reaches (program : Program) (index : Nat) (cell : Bool) : Prop where
  constants : program.constantText (.global index) = (Field.global index).valueText cell
  computed : ∀ function ∈ program.functions,
    (function.naming program.toNames).computation (.global index) = (Field.global index).valueText cell
  set : ∀ function ∈ program.functions, ∀ value,
    (function.naming program.toNames).action (.setGlobal index value)
      = (Field.global index).valueText cell ++ " = " ++ (function.naming program.toNames).operand value
  created : ∀ init, program.globalInitText index (.created init) = (Field.global index).text ++ " = " ++
    if cell then braced (" value = " ++ program.constantText init ++ " ") else program.constantText init
  imported : ∀ origin, program.globals[index]? = some (.imported origin) → cell = true
  exported : ∀ item ∈ program.exports, .global index ∈ item.2.fields → cell = true

open Exec (Execution Imports Instance Link.assign Link.checkSegments Link.exports Link.prepare Store) in
/-- How the unit of a module sets up an instance: as text, in a run, and for the code that reads it. -/
structure Program.SetsUp (program : Program) (module : Wasm.Module) : Prop where
  routines : program.setupRoutines ++ [program.exportLines] = program.stages.map (Stage.lines program)
  stages : program.instantiateLines = program.routineLines "instantiate" ["imports"]
    (("local m = " ++ braced (" exports = " ++ braced "" ++ " "))
      :: (program.stages.map fun stage => apply program.namePrefix stage.name stage.params) ++ program.startText ++ ["return m"])
  lines : ∀ assignment : Assignment, ∃ value, assignment.line program = assignment.field.text ++ " = " ++ value
  runs : ∀ (ω : Type) (imports : Imports) (id : Nat), (Link.prepare program imports id : Execution ω Instance) = (do
    let owner ← program.assignments.foldlM (Link.assign program imports id) (.empty program.functionNames.length)
    Link.checkSegments program owner
    return Link.exports program id owner)
  earlier : ∀ before step after, program.steps = before ++ step :: after → ∀ field ∈ step.reads,
    ∃ earlier ∈ before, earlier.assigns = some field
  present : ∀ before step after, program.steps = before ++ step :: after → ∀ field ∈ step.reads,
    ∀ (ω : Type) (imports : Imports) (id : Nat) (store last : Store ω) (owner : Instance),
      (before.filterMap Step.assignment?).foldlM (Link.assign program imports id)
        (.empty program.functionNames.length) store = .ok owner last →
      owner.Holds program.toNames last field
  code : ∀ field ∈ program.codeFields, ∃ step ∈ program.steps, step.assigns = some field
  prepared : ∀ field ∈ program.codeFields, ∀ (ω : Type) (imports : Imports) (id : Nat) (store last : Store ω) (owner : Instance),
    Link.prepare program imports id store = .ok owner last → owner.Holds program.toNames last field
  cells : ∀ index, ∃ cell, program.Reaches index cell ∧ (cell = true ↔ module.Shares index)

end WasmLua.Target

namespace WasmLua.Compile

open Target (Allowed Callee Field Program)
open Wasm (Instruction ValueType)

variable {stack : List TypedConstant}

section Constants

variable (globals : List Wasm.Global) (allowed : ValueType → Field → Prop)

lemma yields_fold {ε α β : Type} {invariant : α → Prop} (items : List β) {step : α → β → Except ε α} (start : α)
    (each : ∀ value, invariant value → ∀ item ∈ items, Yields invariant (step value item))
    (holds : invariant start) : Yields invariant (items.foldlM step start) := by
  induction items generalizing start with
  | nil => exact yields_pure holds
  | cons first rest ih =>
    rw [List.foldlM_cons]
    refine yields_bind (each start holds first List.mem_cons_self) fun value kept => ?_
    exact ih value (fun other held item member => each other held item (List.mem_cons_of_mem _ member)) kept

def Typed (item : TypedConstant) : Prop := Allowed (allowed item.type) item.value.fields

lemma combine_typed (typed : ∀ item ∈ stack, Typed allowed item) :
    Yields (fun stack => ∀ item ∈ stack, Typed allowed item) (Constant.combine name type op stack) := by
  unfold Constant.combine
  split
  · rename_i b a rest
    obtain ⟨second, typed⟩ := List.forall_mem_cons.mp typed
    obtain ⟨first, others⟩ := List.forall_mem_cons.mp typed
    split
    · exact yields_throw
    · split
      · exact yields_throw
      · rename_i left right
        refine yields_pure (List.forall_mem_cons.mpr ⟨?_, others⟩)
        have sameLeft : a.type = type.valueType := by simpa using left
        have sameRight : b.type = type.valueType := by simpa using right
        rw [Typed, sameLeft] at first
        rw [Typed, sameRight] at second
        exact (Target.allowed_append _).mpr ⟨first, second⟩
  · exact yields_throw

variable {instruction : Instruction} (reads : instruction.op? = some .globalGet → instruction.index.toNat < globals.length →
    ∀ type, allowed type (.global instruction.index.toNat))
  (refers : instruction.op? = some .refFunc → allowed .funcref (.ref instruction.index.toNat))

include reads refers in
lemma step_typed (typed : ∀ item ∈ stack, Typed allowed item) :
    Yields (fun stack => ∀ item ∈ stack, Typed allowed item) (Constant.step globals stack instruction) := by
  have plain (type : ValueType) (value : Target.Atom) (none : value.fields = []) :
      ∀ item ∈ (⟨type, .atom value⟩ : TypedConstant) :: stack, Typed allowed item := by
    refine List.forall_mem_cons.mpr ⟨?_, typed⟩
    rw [Typed, Target.Constant.fields, none]
    exact Target.allowed_nil _
  unfold Constant.step
  dsimp only
  split
  · rename_i known
    cases found : globals[instruction.index.toNat]? with
    | none => exact yields_throw
    | some global =>
      refine yields_pure (List.forall_mem_cons.mpr ⟨?_, typed⟩)
      refine List.forall_mem_singleton.mpr (reads known ?_ _)
      exact (List.getElem?_eq_some_iff.mp found).1
  · exact yields_pure (plain _ _ rfl)
  · exact yields_pure (plain _ _ rfl)
  · exact yields_pure (plain _ _ rfl)
  · exact yields_pure (plain _ _ rfl)
  · exact yields_pure (plain _ _ rfl)
  · rename_i known
    refine yields_pure (List.forall_mem_cons.mpr ⟨?_, typed⟩)
    exact List.forall_mem_singleton.mpr (refers known)
  · split
    · exact combine_typed allowed typed
    · exact yields_throw
  · exact yields_pure typed
  · exact yields_throw

lemma zero_fields : (Target.Atom.zero type).fields = [] := by
  cases type <;> rfl

lemma constant_typed (body : List Instruction) (wanted : ValueType)
    (reads : ∀ instruction ∈ body, instruction.op? = some .globalGet →
      instruction.index.toNat < globals.length → ∀ type, allowed type (.global instruction.index.toNat))
    (refers : ∀ instruction ∈ body, instruction.op? = some .refFunc → allowed .funcref (.ref instruction.index.toNat)) :
    Yields (fun constant => Allowed (allowed wanted) constant.fields) (Constant.ofBody globals body wanted) := by
  unfold Constant.ofBody
  refine yields_bind (yields_fold body [] (fun stack typed instruction member =>
    step_typed globals allowed (reads instruction member) (refers instruction member)
      typed) (List.forall_mem_nil _)) fun stack typed => ?_
  cases stack with
  | nil =>
    refine yields_pure ?_
    rw [Target.Constant.fields, zero_fields]
    exact Target.allowed_nil _
  | cons result rest =>
    have top := (List.forall_mem_cons.mp typed).1
    dsimp only
    split
    · exact yields_throw
    · rename_i same
      have type : result.type = wanted := by simpa using same
      rw [Typed, type] at top
      exact yields_pure top

lemma offset_fields (body : List Instruction) :
    Yields (fun constant => ∀ field ∈ constant.fields, ∃ index < globals.length, field = .global index)
      (Constant.ofBody globals body .i32) := by
  have typed := constant_typed globals
    (fun type field => type = .funcref ∨ ∃ index < globals.length, field = .global index) body .i32
    (fun _ _ _ inside _ => .inr ⟨_, inside, rfl⟩) (fun _ _ _ => .inl rfl)
  intro constant made field member
  rcases typed constant made field member with wrong | found
  · cases wrong
  · exact found

end Constants

namespace Plan

variable {numbers : List Nat} {number : Nat}

section References

lemma marks_set (marks : Array Bool) :
    (numbers.foldl (fun marks number => marks.setIfInBounds number true) marks).getD number false = true ↔
      marks.getD number false = true ∨ number < marks.size ∧ number ∈ numbers := by
  induction numbers generalizing marks with
  | nil => simp
  | cons first rest ih =>
    rw [List.foldl_cons, ih, Array.size_setIfInBounds]
    simp only [Array.getD_eq_getD_getElem?, Array.getElem?_setIfInBounds, List.mem_cons]
    by_cases inside : number < marks.size
    · by_cases same : first = number
      · simp [same, inside]
      · simp [same, inside, Ne.symm same]
    · by_cases same : first = number
      all_goals simp [same, inside]

lemma mem_listed : number ∈ listed bound numbers ↔ number < bound ∧ number ∈ numbers := by
  unfold listed
  simp only [List.mem_filter, List.mem_range, marks_set]
  simp only [Array.size_replicate, Array.getD_eq_getD_getElem?, Array.getElem?_replicate]
  by_cases inside : number < bound
  · simp [inside]
  · simp [inside]

lemma element_refs_cover {functions : Nat} (segment : Nat) {elements : List Wasm.ElementSegment}
    (refs : List Nat) (made : elementRefs functions segment elements = .ok refs)
    {element : Wasm.ElementSegment} (member : element ∈ elements) {index : Int64}
    (listed : index ∈ element.init) (present : 0 ≤ index.toInt) : index.toInt.toNat < functions ∧ index.toInt.toNat ∈ refs := by
  induction elements generalizing segment refs with
  | nil => cases member
  | cons first rest ih =>
    rw [elementRefs] at made
    split at made
    · cases made
    · rename_i none
      obtain ⟨more, others, same⟩ := bind_ok made
      cases same
      rcases List.mem_cons.mp member with rfl | later
      · have small := List.find?_eq_none.mp none index listed
        refine ⟨?_, List.mem_append_left _ (List.mem_map_of_mem ?_)⟩
        · have below : index.toInt < functions := by simpa using small
          omega
        · exact List.mem_filter.mpr ⟨listed, decide_eq_true present⟩
      · obtain ⟨below, found⟩ := ih (segment + 1) more others later
        exact ⟨below, List.mem_append_right _ found⟩

lemma body_refs_cover
    (member : instruction ∈ body) (refers : instruction.op? = some .refFunc) : instruction.index.toNat ∈ bodyRefs body :=
  List.mem_filterMap.mpr ⟨instruction, member, by rw [refers]⟩

end References

variable {module : Wasm.Module} {plan : Plan}

section Cells

lemma cells_marked (cells : List Bool)
    (length : cells.length = module.globals.length) (checked : checkExports module exports cells = .ok made) (index : Nat) :
    made.getD index false = true ↔ cells.getD index false = true ∨
      ∃ item ∈ exports, item.kind = .global ∧ item.index.toNat = index := by
  induction exports generalizing cells with
  | nil =>
    cases checked
    simp
  | cons item rest ih =>
    rw [checkExports] at checked
    cases kind : item.kind with
    | global =>
      simp only [kind] at checked
      split at checked
      · rename_i inside
        have within : item.index.toNat < cells.length := length ▸ inside
        rw [ih (cells.set item.index.toNat true) (by rw [List.length_set, length]) checked]
        by_cases same : item.index.toNat = index
        · simp [List.getD_eq_getElem?_getD, kind, same, same ▸ within]
        · simp [List.getD_eq_getElem?_getD, same]
      · cases checked
    | func =>
      simp only [kind] at checked
      split at checked
      · rw [ih cells length checked]
        simp [kind]
      · cases checked
    | _ =>
      simp only [kind] at checked
      rw [ih cells length checked]
      simp [kind]

end Cells

section Parts

variable {plan : Plan} {functions : List CompiledFunction} {program : Program} (assembled : plan.Assembled functions program)

lemma callee_fields (plan : Plan) (index : Nat) : (plan.callee index).fields = plan.module.calleeFields index := by
  unfold callee Wasm.Module.calleeFields
  cases plan.module.functions[index]? with
  | none => rfl
  | some function =>
    dsimp only
    split
    · rfl
    · rfl

include assembled

lemma imported_set (index : Nat) (field : Field) (read : field ∈ plan.module.calleeFields index) :
    ∃ entry ∈ program.functionImports, field = .function entry.1 := by
  unfold Wasm.Module.calleeFields at read
  cases found : plan.module.functions[index]? with
  | none => simp [found] at read
  | some function =>
    cases origin : function.origin with
    | none => simp [found, origin] at read
    | some origin' =>
      refine ⟨(index, origin'), ?_, by simpa [found, origin] using read⟩
      rw [assembled.functionImports]
      obtain ⟨inside, same⟩ := List.getElem?_eq_some_iff.mp found
      refine List.mem_filterMap.mpr ⟨(index, some origin'), List.mem_mapIdx.mpr ⟨index, inside, ?_⟩, rfl⟩
      rw [same, origin]

lemma imports_inside (member : entry ∈ program.functionImports) :
    entry.1 < plan.module.functions.length := by
  rw [assembled.functionImports] at member
  obtain ⟨⟨index, origin⟩, listed, made⟩ := List.mem_filterMap.mp member
  obtain ⟨place, inside, same⟩ := List.mem_mapIdx.mp listed
  cases same
  obtain ⟨found, -, rfl⟩ := Option.map_eq_some_iff.mp made
  exact inside

lemma refs_made : program.refs = plan.refs.map fun index =>
    ⟨index, ((plan.module.signature? index).map (·.key)).getD [], plan.callee index⟩ := by
  refine mapped_list ?_ _ assembled.refs
  intro index ref made
  obtain ⟨key, known, same⟩ := bind_ok made
  cases same
  unfold signatureKey at known
  cases signature : plan.module.signature? index with
  | none =>
    rw [signature] at known
    cases known
  | some found =>
    rw [signature] at known
    cases known
    rfl

end Parts

end Plan

section Named

variable {module : Wasm.Module} {instruction : Instruction} {index : Nat}

lemma function_named_by (member : .function index ∈ instruction.fields module) :
    .function index ∈ module.calleeFields instruction.index.toNat := by
  unfold Instruction.fields at member
  split at member <;> simp_all

lemma ref_named_by (member : .ref index ∈ instruction.fields module) :
    instruction.op? = some .refFunc ∧ instruction.index.toNat = index := by
  unfold Instruction.fields Wasm.Module.calleeFields at member
  split at member
  · split at member
    · split at member <;> simp_all
    · cases member
  all_goals simp_all

end Named

namespace Plan

variable {index : Nat}

section Closed

structure Collects (plan : Plan) : Prop where
  named : plan.names.functionNames.length = plan.module.functions.length
  elements : ∀ element ∈ plan.module.elements, ∀ index ∈ element.init, 0 ≤ index.toInt →
    index.toInt.toNat ∈ plan.refs
  globals : ∀ global ∈ plan.module.globals, ∀ instruction ∈ global.init,
    instruction.op? = some .refFunc → instruction.index.toNat < plan.module.functions.length →
    instruction.index.toNat ∈ plan.refs
  bodies : ∀ function ∈ plan.module.functions, ∀ instruction ∈ function.body,
    instruction.op? = some .refFunc → instruction.index.toNat < plan.module.functions.length →
    instruction.index.toNat ∈ plan.refs
  inside : ∀ index ∈ plan.refs, index < plan.module.functions.length

lemma plan_collects {module : Wasm.Module} {options : Option Options} {plan : Plan}
    {functions : List CompiledFunction} {program : Program}
    (compiles : Builds module options plan functions program) : plan.Collects := by
  obtain rfl := compiles.planned
  obtain ⟨refs, collected, same⟩ := compiles.refs
  refine ⟨?_, ?_, ?_, ?_, ?_⟩
  · rw [compiles.names]
    exact function_names_length
  · intro element member index listed present
    obtain ⟨below, found⟩ := element_refs_cover 0 refs collected member listed present
    rw [same, mem_listed]
    exact ⟨below, List.mem_append_left _ (List.mem_append_left _ found)⟩
  · intro global member instruction inside refers below
    rw [same, mem_listed]
    refine ⟨below, List.mem_append_left _ (List.mem_append_right _ (List.mem_flatMap.mpr ?_))⟩
    exact ⟨global, member, body_refs_cover inside refers⟩
  · intro function member instruction inside refers below
    rw [same, mem_listed]
    refine ⟨below, List.mem_append_right _ (List.mem_flatMap.mpr ?_)⟩
    exact ⟨function, member, body_refs_cover inside refers⟩
  · intro index member
    rw [same, mem_listed] at member
    exact member.1

variable {plan : Plan} {functions : List CompiledFunction} {program : Program}
  (assembled : plan.Assembled functions program) (collects : plan.Collects)

include assembled

lemma ref_made (member : index ∈ plan.refs) : ∃ ref ∈ program.refs, ref.function = index := by
  rw [refs_made assembled]
  exact ⟨_, List.mem_map_of_mem member, rfl⟩

lemma callee_assigned : ∀ field ∈ (plan.callee index).fields, field ∈ program.assigned := by
  intro field read
  rw [callee_fields] at read
  obtain ⟨entry, member, rfl⟩ := imported_set assembled index field read
  exact (program.mem_assigned _).mpr ⟨entry, member, rfl⟩

lemma field_assigned (field : Field) (has : plan.module.Has plan.module.globals.length field)
    (called : ∀ index, field = .function index → field ∈ program.assigned)
    (listed : ∀ index, field = .ref index → index ∈ plan.refs) : field ∈ program.assigned := by
  cases field with
  | function index => exact called index rfl
  | ref index => exact (program.mem_assigned _).mpr (ref_made assembled (listed index rfl))
  | memory index => exact (program.mem_assigned _).mpr (by rwa [assembled.memories, List.length_map])
  | table index => exact (program.mem_assigned _).mpr (by rwa [assembled.tables, List.length_map])
  | global index =>
    exact (program.mem_assigned _).mpr (by rwa [← (globals_made 0 _ assembled.globals).length_eq])

lemma offset_assigned
    (made : plan.constant owner body .i32 = .ok offset) : ∀ field ∈ offset.fields, field ∈ program.assigned := by
  intro field read
  obtain ⟨index, inside, rfl⟩ := yields_error (offset_fields plan.module.globals body) offset made field read
  exact field_assigned assembled _ inside nofun nofun

lemma named_assigned {instruction : Instruction} (has : ∀ field ∈ instruction.fields plan.module,
      plan.module.Has plan.module.globals.length field) (refers : instruction.op? = some .refFunc →
      instruction.index.toNat < plan.module.functions.length → instruction.index.toNat ∈ plan.refs) :
    ∀ field ∈ instruction.fields plan.module, field ∈ program.assigned := by
  intro field member
  have here := has field member
  refine field_assigned assembled field here ?_ ?_
  · rintro index rfl
    have called := function_named_by member
    rw [← callee_fields] at called
    exact callee_assigned assembled _ called
  · rintro index rfl
    obtain ⟨known, rfl⟩ := ref_named_by member
    exact refers known here

lemma export_assigned (has : ∃ field ∈ item.field?, plan.module.Has plan.module.globals.length field) :
    ∀ field ∈ (plan.exportValue item).fields, field ∈ program.assigned := by
  intro field read
  obtain ⟨known, kind, here⟩ := has
  unfold Wasm.Export.field? at kind
  unfold exportValue at read
  cases same : item.kind with
  | func =>
    rw [same] at read
    exact callee_assigned assembled field read
  | table | memory | global =>
    rw [same] at kind read
    cases kind
    cases List.mem_singleton.mp read
    exact field_assigned assembled _ here nofun nofun
  | other byte =>
    rw [same] at kind
    cases kind

omit assembled in
lemma chunks_subset {α : Type} {size fuel : Nat} (start : Nat) (items : List α) {piece : Nat × List α}
    (member : piece ∈ Program.chunksFrom size start fuel items) : piece.2 ⊆ items := by
  induction fuel generalizing start items with
  | zero => cases member
  | succ fuel ih =>
    rw [Program.chunksFrom] at member
    split at member
    · cases member
    · rcases List.mem_cons.mp member with rfl | later
      · exact List.take_subset _ _
      · exact List.Subset.trans (ih _ _ later) (List.drop_subset _ _)

include collects in
lemma element_assigned (member : element ∈ program.elements) :
    (.table element.table.toNat ∈ program.assigned ∧ ∀ field ∈ element.offset.fields, field ∈ program.assigned) ∧
      ∀ index, some index ∈ element.functions → .ref index ∈ program.assigned := by
  obtain ⟨place, found⟩ := List.mem_iff_getElem?.mp member
  obtain ⟨segment, listed, table, inside, ⟨owner, offset⟩, functions⟩ := related_at (elements_made 0 _ assembled.elements) found
  refine ⟨⟨field_assigned assembled _ (table ▸ inside) nofun nofun, offset_assigned assembled offset⟩, ?_⟩
  intro index here
  rw [functions] at here
  obtain ⟨source, among, same⟩ := List.mem_map.mp here
  split at same
  · cases same
  · rename_i present
    cases same
    exact (program.mem_assigned _).mpr (ref_made assembled (collects.elements segment
      (List.mem_filter.mp (List.mem_of_getElem? listed)).1 source among (Int.not_lt.mp present)))

lemma data_assigned {data : Target.DataInit} (member : data ∈ program.data) : .memory data.memory.toNat ∈ program.assigned ∧
      ∀ field ∈ data.offset.fields, field ∈ program.assigned := by
  obtain ⟨place, found⟩ := List.mem_iff_getElem?.mp member
  obtain ⟨segment, -, memory, inside, ⟨owner, offset⟩, -⟩ := related_at (data_made 0 _ assembled.data) found
  exact ⟨field_assigned assembled _ (memory ▸ inside) nofun nofun, offset_assigned assembled offset⟩

include collects in
lemma uses_assigned (inRange : plan.module.InRange) : ∀ step ∈ program.uses, ∀ field ∈ step.reads, field ∈ program.assigned := by
  intro step member
  simp only [Program.uses, Program.checkSteps, Program.segmentSteps, Program.exportSteps,
    List.mem_append, List.mem_map, List.mem_flatMap] at member
  rcases member with ((⟨element, listed, rfl⟩ | ⟨data, listed, rfl⟩) |
    (⟨element, listed, piece, cut, rfl⟩ | ⟨data, listed, piece, -, rfl⟩)) | ⟨item, listed, rfl⟩
  · obtain ⟨⟨table, offset⟩, -⟩ := element_assigned assembled collects listed
    exact List.forall_mem_cons.mpr ⟨table, offset⟩
  · obtain ⟨memory, offset⟩ := data_assigned assembled listed
    exact List.forall_mem_cons.mpr ⟨memory, offset⟩
  · obtain ⟨⟨table, offset⟩, refs⟩ := element_assigned assembled collects listed
    refine List.forall_mem_cons.mpr ⟨table, List.forall_mem_append.mpr ⟨offset, ?_⟩⟩
    intro field read
    obtain ⟨function, among, same⟩ := List.mem_filterMap.mp read
    obtain ⟨index, rfl, rfl⟩ := Option.map_eq_some_iff.mp same
    exact refs index (chunks_subset _ _ cut among)
  · obtain ⟨memory, offset⟩ := data_assigned assembled listed
    exact List.forall_mem_cons.mpr ⟨memory, offset⟩
  · rw [assembled.exports] at listed
    obtain ⟨source, among, rfl⟩ := List.mem_map.mp listed
    exact export_assigned assembled (inRange.exports source among)

include collects in
lemma refs_closed : ∀ ref ∈ program.refs, ref.function < plan.module.functions.length ∧
    ∀ field ∈ ref.callee.fields, ∃ entry ∈ program.functionImports, field = .function entry.1 := by
  rw [refs_made assembled]
  refine List.forall_mem_map.mpr fun index member => ⟨collects.inside index member, ?_⟩
  intro field read
  exact imported_set assembled index field (callee_fields plan index ▸ read)

include collects in
lemma globals_closed (inRange : plan.module.InRange) (index : Nat) (init : Target.Constant)
    (found : program.globals[index]? = some (.created init)) :
    ∀ field ∈ init.fields, (∃ ref ∈ program.refs, field = .ref ref.function) ∨ ∃ earlier < index, field = .global earlier := by
  obtain ⟨global, here, own, owner, made⟩ := related_at (globals_made 0 _ assembled.globals) found
  have listed : (global, index) ∈ plan.module.globals.zipIdx := List.mem_zipIdx_iff_getElem?.mpr here
  refine yields_error (constant_typed plan.module.globals (fun _ field =>
    (∃ ref ∈ program.refs, field = .ref ref.function) ∨ ∃ earlier < index, field = .global earlier)
    global.init global.type.type ?_ ?_) init made
  · intro instruction member known _ _
    refine .inr ⟨_, inRange.globals _ listed own instruction member (.global _) ?_, rfl⟩
    rw [Instruction.fields, known]
    exact List.mem_singleton_self _
  · intro instruction member known
    have inside := inRange.globals _ listed own instruction member (.ref instruction.index.toNat) (by
      rw [Instruction.fields, known]
      exact List.mem_singleton_self _)
    obtain ⟨ref, among, same⟩ := ref_made assembled
      (collects.globals global (List.mem_of_getElem? here) instruction member known inside)
    exact .inl ⟨ref, among, by rw [same]⟩

lemma start_assigned : ∀ field ∈ program.start.elim [] Callee.fields, field ∈ program.assigned := by
  have made := assembled.start
  unfold Plan.start at made
  cases known : plan.module.start with
  | none =>
    rw [known] at made
    rw [← Except.ok.inj made]
    exact List.forall_mem_nil _
  | some index =>
    simp only [known] at made
    split at made
    · rw [← Except.ok.inj made]
      exact callee_assigned assembled
    · cases made

end Closed

end Plan

section Units

variable {module : Wasm.Module} {options : Option Options} {program : Program}
  (accepted : compile module options = .ok program) include accepted

lemma compiled_closed (inRange : module.InRange) : program.Closed := by
  obtain ⟨plan, functions, compiles⟩ := compile_steps accepted
  have collects := Plan.plan_collects compiles
  obtain rfl := compiles.planned
  have assembled := compiles.assembled
  have named : program.functionNames.length = plan.module.functions.length := by
    rw [← collects.named, ← assembled.names]
  refine ⟨?_, ?_, Plan.globals_closed assembled collects inRange, Plan.uses_assigned assembled collects inRange, ?_⟩
  · exact fun entry member => named ▸ Plan.imports_inside assembled member
  · exact named ▸ Plan.refs_closed assembled collects
  · have bodies := Plan.functions_within 0 (fun function member instruction inside =>
      Plan.named_assigned assembled (inRange.bodies function member instruction inside)
        (collects.bodies function member instruction inside)) functions compiles.compiled
    refine List.forall_mem_append.mpr ⟨Plan.start_assigned assembled, ?_⟩
    rw [assembled.functions]
    exact List.forall_mem_flatMap.mpr (List.forall_mem_map.mpr bodies)

lemma compiled_cells (index : Nat) : program.isCell index = true ↔ module.Shares index := by
  obtain ⟨plan, functions, compiles⟩ := compile_steps accepted
  have marked := Plan.cells_marked _ (List.length_map _) compiles.cells index
  rw [Target.Names.isCell, compiles.assembled.names, marked]
  refine or_congr_left ?_
  rw [List.getD_eq_getElem?_getD, List.getElem?_map]
  cases module.globals[index]? <;> simp

lemma compiled_reaches (inRange : module.InRange) (index : Nat) : program.Reaches index (program.isCell index) := by
  have shared := compiled_cells accepted index
  have form : program.globalText index = (Field.global index).valueText (program.isCell index) := by
    unfold Target.Names.globalText Field.valueText
    split
    · rfl
    · rfl
  refine ⟨form, fun _ _ => form, fun _ _ value => ?_, fun _ => rfl, ?_, ?_⟩
  · rw [← form]
    rfl
  · intro origin found
    refine shared.mpr (.inl ?_)
    have origins := (compiled_demands accepted).2
    have here := congrArg (·[index]?) origins
    simp only [List.getElem?_map, found] at here
    obtain ⟨global, known, same⟩ := Option.map_eq_some_iff.mp here.symm
    exact ⟨global, known, by rw [same]; rfl⟩
  · intro item member read
    obtain ⟨plan, functions, compiles⟩ := compile_steps accepted
    obtain rfl := compiles.planned
    have assembled := compiles.assembled
    rw [assembled.exports] at member
    obtain ⟨source, among, rfl⟩ := List.mem_map.mp member
    obtain ⟨known, kind, -⟩ := inRange.exports source among
    refine shared.mpr (.inr ⟨source, among, ?_⟩)
    unfold Plan.exportValue at read
    unfold Wasm.Export.field? at kind
    cases same : source.kind with
    | func =>
      simp only [same, Target.ExportValue.fields, Plan.callee_fields] at read
      obtain ⟨entry, -, wrong⟩ := Plan.imported_set assembled _ _ read
      cases wrong
    | global =>
      simp only [same, Target.ExportValue.fields, List.mem_singleton, Field.global.injEq] at read
      exact ⟨rfl, read.symm⟩
    | other byte =>
      rw [same] at kind
      cases kind
    | _ => simp [same, Target.ExportValue.fields] at read

end Units

/-- Where all indices are in range, a unit assigns every field before anything reads it, and a global is a cell
wherever it stands exactly when it is imported or exported. -/
theorem fields_set_before_read (module : Wasm.Module) (options : Option Options) (program : Program)
    (inRange : module.InRange) (accepted : compile module options = .ok program) : program.SetsUp module := by
  have closed := compiled_closed accepted inRange
  exact {
    routines := program.setup_staged
    stages := program.instantiate_staged
    lines := Target.Assignment.line_assigns program
    runs := fun _ => Exec.Link.prepare_assigns program
    earlier := fun before step after here field read => closed.sets_first before after step here field read
    present := fun _ _ _ here field read _ imports id _ _ _ ran => Exec.Link.step_finds imports id closed here ran field read
    code := fun field read => by
      obtain ⟨step, member, assigns⟩ := Program.assigned_before (closed.code field read)
      exact ⟨step, program.steps_eq ▸ List.mem_append_left _ member, assigns⟩
    prepared := fun field read _ imports id _ _ _ ran =>
      Exec.Link.prepared_holds imports id closed ran field (closed.code field read)
    cells := fun index => ⟨program.isCell index, compiled_reaches accepted inRange index, compiled_cells accepted index⟩ }

/-- A module with a field of each kind: its start function calls an import, puts itself into a table, and
loads from memory at a global whose initial value is that of an imported one. -/
def sampler : Wasm.Module :=
  { Wasm.Module.empty with
    types := [⟨[], []⟩]
    functions := [⟨[], 0, some ⟨[0x65], [0x66]⟩, [], []⟩,
      ⟨[], 0, none, [], [⟨0x10, 0, []⟩, ⟨0x41, 0, []⟩, ⟨0xd2, 1, []⟩, ⟨0x26, 0, []⟩, ⟨0x23, 1, []⟩,
        ⟨0x28, 0, []⟩, ⟨0x1a, 0, []⟩, ⟨0x0b, 0, []⟩]⟩]
    tables := [⟨none, .funcref, ⟨1, none⟩⟩]
    memories := [⟨none, ⟨1, none⟩⟩]
    globals := [⟨some ⟨[0x65], [0x67]⟩, ⟨.i32, false⟩, []⟩, ⟨none, ⟨.i32, false⟩, [⟨0x23, 0, []⟩, ⟨0x0b, 0, []⟩]⟩]
    elements := [⟨0, [⟨0x23, 1, []⟩, ⟨0x0b, 0, []⟩], [1], false⟩]
    exports := [⟨[0x6d], .memory, 0⟩, ⟨[0x73], .func, 1⟩]
    start := some 1 }

def samplerImports : Exec.Imports := [([0x65], [([0x66], .function (.host 0)), ([0x67], .object 0)])]

def samplerStore : Exec.Store Unit := { Exec.Store.empty () with objects := #[⟨.ofInt 0, .cell⟩] }

def samplerLinks (program : Program) : Bool :=
  match Exec.Link.prepare program samplerImports 0 samplerStore with
  | .ok _ _ => true
  | .error _ _ => false

theorem sampler_fields : ∃ program owner last, compile sampler none = .ok program ∧ sampler.InRange ∧
    Exec.Link.prepare program samplerImports 0 samplerStore = .ok owner last ∧
    (∀ field ∈ [Field.function 0, .memory 0, .table 0, .ref 1, .global 1], field ∈ program.codeFields) ∧
    ∀ field ∈ program.codeFields, (∃ step ∈ program.steps, step.assigns = some field) ∧ owner.Holds program.toNames last field := by
  have inRange : sampler.InRange := ⟨by decide, by decide, by decide⟩
  have linked : (compile sampler none).toOption.any (fun program => samplerLinks program &&
      [Field.function 0, .memory 0, .table 0, .ref 1, .global 1].all (· ∈ program.codeFields)) = true := by
    decide +kernel
  cases compiled : compile sampler none with
  | error error => simp [compiled, Except.toOption] at linked
  | ok program =>
    have checked : samplerLinks program = true ∧
        [Field.function 0, .memory 0, .table 0, .ref 1, .global 1].all (· ∈ program.codeFields) = true := by
      simpa [compiled, Except.toOption] using linked
    obtain ⟨links, mentioned⟩ := checked
    unfold samplerLinks at links
    cases ran : Exec.Link.prepare program samplerImports 0 samplerStore with
    | error raised last => simp [ran] at links
    | ok owner last =>
      have sets := fields_set_before_read sampler none program inRange compiled
      refine ⟨program, owner, last, rfl, inRange, ran, by simpa using mentioned, fun field read => ?_⟩
      exact ⟨sets.code field read, sets.prepared field read Unit samplerImports 0 samplerStore last owner ran⟩

end WasmLua.Compile
