import WasmLua.Proofs.Binary.Decoding
import WasmLua.Proofs.Safety.Bodies
import WasmLua.Proofs.Spilling.Spelling

namespace WasmLua.Compile

open Constant List
open Target (Callee Program)

namespace Guarded

instance : Reports Error := ⟨(· ≠ .missingSignature)⟩

instance : Reports ConstantFault := ⟨fun _ => True⟩

def checkExports (module : Wasm.Module) : List Wasm.Export → List Bool → Guarded Error (List Bool)
  | [], cells => .ok cells
  | item :: rest, cells =>
    match item.kind with
    | .global =>
      if item.index.toNat < module.globals.length then do
        checkExports module rest (← put cells item.index.toNat true)
      else refuse (.exportedGlobal item.name item.index)
    | .func =>
      if item.index.toNat < module.functions.length then checkExports module rest cells
      else refuse (.exportedFunction item.name item.index)
    | _ => checkExports module rest cells

def make (module : Wasm.Module) (settings : Settings) : Guarded Error Plan := do
  let cells ← checkExports module module.exports (module.globals.map (·.origin.isSome))
  let refs ← (Plan.elementRefs module.functions.length 0 module.elements).mapError .fault
  let mentioned := refs ++ module.globals.flatMap (Plan.bodyRefs ·.init) ++ module.functions.flatMap (Plan.bodyRefs ·.body)
  return {
    module := module
    settings := settings
    names := ⟨settings.namePrefix, functionNames module.functions settings.debugNames, cells⟩
    refs := Plan.listed module.functions.length mentioned }

def chunksFrom {α : Type} (items : List α) (size : Nat) : Nat → Nat → Guarded Error (List (Nat × List α))
  | 0, _ => .ok []
  | fuel + 1, start =>
    if items.length ≤ start then .ok []
    else do
      let piece ← slice items start (min (start + size) items.length)
      return (start, piece) :: (← chunksFrom items size fuel (start + size))

def chunks {α : Type} (size : Nat) (items : List α) : Guarded Error (List (Nat × List α)) := chunksFrom items size items.length 0

def combine (name : String) (type : Wasm.IntType) (op : Target.Arith) (stack : List TypedConstant) :
    Guarded ConstantFault (List TypedConstant) :=
  if stack.length < 2 then refuse (.underflow name)
  else do
    let b ← fetch stack 0
    let a ← fetch stack 1
    if a.type != type.valueType then refuse (.operandType name a.type)
    else if b.type != type.valueType then refuse (.operandType name b.type)
    else return ⟨type.valueType, .arith type op a.value b.value⟩ :: stack.drop 2

def constantStep (names : Target.Names) (globals : List Wasm.Global) (stack : List TypedConstant)
    (instruction : Wasm.Instruction) : Guarded ConstantFault (List TypedConstant) :=
  let name := instruction.opText
  match instruction.op? with
  | some .globalGet => do
    let global ← lookup globals instruction.index.toNat (.globalIndex instruction.index)
    let _ ← fetch names.cells instruction.index.toNat
    return ⟨global.type.type, .global instruction.index.toNat⟩ :: stack
  | some (.intBinary type op) =>
    match arith? op with
    | some op => combine name type op stack
    | none => refuse (.unexpected name)
  | _ => (step globals stack instruction).mapError .fault

def constantOf (names : Target.Names) (globals : List Wasm.Global) (body : List Wasm.Instruction)
    (wanted : Wasm.ValueType) : Guarded ConstantFault Target.Constant := do
  let stack ← body.foldlM (constantStep names globals) []
  if stack.isEmpty then return .atom (.zero wanted)
  else
    let result ← fetch stack 0
    if result.type != wanted then refuse (.resultType result.type wanted) else return result.value

section Parts

variable (plan : Plan)

def bodyOf (index : Nat) (signature : Wasm.Signature) (function : Wasm.Function) : Guarded Error CompiledBody :=
  (compileBody plan.names plan.module (plan.module.scopeWith (signature.params ++ function.locals))
    signature.results function.body).mapError (Stop.map (Plan.bodyError index))

/-- A function that is spilled is compiled again. However its operands are named, a run makes the same accesses. -/
def compileFunction (index : Nat) (function : Wasm.Function) : Guarded Error CompiledFunction := do
  let signature ← fetch plan.module.types function.type.toNat
  let body ← bodyOf plan index signature function
  if Plan.variableCount signature function body ≤ maxVariables then
    return plan.finish index (← fetch plan.names.functionNames index) signature function false body
  else
    let body ← bodyOf plan index signature function
    return plan.finish index (← fetch plan.names.functionNames index) signature function true body

def compileFrom : Nat → List Wasm.Function → Guarded Error (List CompiledFunction)
  | _, [] => .ok []
  | index, function :: rest =>
    if function.origin.isSome then compileFrom (index + 1) rest
    else do
      let compiled ← compileFunction plan index function
      return compiled :: (← compileFrom (index + 1) rest)

def callee (index : Nat) : Guarded Error Callee := do
  let function ← fetch plan.module.functions index
  if function.origin.isSome then return .imported index
  else
    let _ ← fetch plan.names.functionNames index
    return .defined index

def signatureKey (index : Nat) : Guarded Error Bytes := do
  let function ← fetch plan.module.functions index
  return (← fetch plan.module.types function.type.toNat).key

def ref (index : Nat) : Guarded Error Target.RefInit := do
  let key ← signatureKey plan index
  return ⟨index, key, ← callee plan index⟩

def constant (owner : ConstantOwner) (body : List Wasm.Instruction) (wanted : Wasm.ValueType) : Guarded Error Target.Constant :=
  (constantOf plan.names plan.module.globals body wanted).mapError (Stop.map (.constant owner))

def globals : Nat → List Wasm.Global → Guarded Error (List Target.GlobalInit)
  | _, [] => .ok []
  | index, global :: rest =>
    match global.origin with
    | some origin => do return .imported origin :: (← globals (index + 1) rest)
    | none => do
      let init ← constant plan (.global index) global.init global.type.type
      let _ ← fetch plan.names.cells index
      return .created init :: (← globals (index + 1) rest)

def elements : Nat → List Wasm.ElementSegment → Guarded Error (List Target.ElementInit)
  | _, [] => .ok []
  | index, element :: rest =>
    if element.passive then elements (index + 1) rest
    else if plan.module.tables.length ≤ element.table.toNat then
      refuse (.elementTable index element.table)
    else do
      let offset ← constant plan (.element index) element.offset .i32
      let functions := element.init.map fun function =>
        if function.toInt < 0 then none else some function.toInt.toNat
      let _ ← chunks Program.elementChunk functions
      return ⟨element.table, offset, functions⟩ :: (← elements (index + 1) rest)

def data : Nat → List Wasm.DataSegment → Guarded Error (List Target.DataInit)
  | _, [] => .ok []
  | index, data :: rest =>
    if data.passive then Guarded.data (index + 1) rest
    else if plan.module.memories.length ≤ data.memory.toNat then
      refuse (.dataMemory index data.memory)
    else do
      let offset ← constant plan (.data index) data.offset .i32
      let _ ← chunks Program.dataChunk data.init
      return ⟨data.memory, offset, data.init⟩ :: (← Guarded.data (index + 1) rest)

def exportValue (item : Wasm.Export) : Guarded Error (Bytes × Target.ExportValue) :=
  match item.kind with
  | .func => do return (item.name, .function (← callee plan item.index.toNat))
  | _ => return (item.name, plan.exportValue item)

def externType (kind : Wasm.ExternKind) (index : UInt32) : Guarded Error (Bytes × Bool) :=
  match kind with
  | .func => do return (← signatureKey plan index.toNat, false)
  | .table => do return ([(← elementType plan.module index).key], false)
  | .global => do
    let global ← fetch plan.module.globals index.toNat
    return ([global.type.type.key], global.type.mutable)
  | _ => return ([], false)

def importsOf (kind : Wasm.ExternKind) : Nat → List (Option Wasm.Import) → Guarded Error (List Target.Extern)
  | _, [] => .ok []
  | index, none :: rest => importsOf kind (index + 1) rest
  | index, some origin :: rest => do
    let (type, _) ← externType plan kind (UInt32.ofNat index)
    return ⟨origin.module, origin.field, kind, type, false⟩ :: (← importsOf kind (index + 1) rest)

def importList : Guarded Error (List Target.Extern) := do
  let module := plan.module
  return (← importsOf plan .func 0 (module.functions.map (·.origin)))
    ++ (← importsOf plan .table 0 (module.tables.map (·.origin)))
    ++ (← importsOf plan .memory 0 (module.memories.map (·.origin)))
    ++ (← importsOf plan .global 0 (module.globals.map (·.origin)))

def exportList : Guarded Error (List Target.Extern) := plan.module.exports.mapM fun item => do
    let (type, mutable) ← externType plan item.kind item.index
    return ⟨[], item.name, item.kind, type, mutable⟩

def start : Guarded Error (Option Callee) :=
  match plan.module.start with
  | none => .ok none
  | some index =>
    if index.toNat < plan.module.functions.length then do return some (← callee plan index.toNat)
    else refuse (.startFunction index)

def program (functions : List CompiledFunction) : Guarded Error Program := do
  let module := plan.module
  let refs ← plan.refs.mapM (ref plan)
  let globals ← globals plan 0 module.globals
  let elements ← elements plan 0 module.elements
  let data ← data plan 0 module.data
  let importList ← importList plan
  let exportList ← exportList plan
  let start ← start plan
  let exports ← module.exports.mapM (exportValue plan)
  return plan.assemble functions refs globals elements data exports importList exportList start

end Parts

def compile (module : Wasm.Module) (options : Option Options) : Guarded Error Program := do
  let settings ← (settingsOf options).mapError .fault
  let plan ← make module settings
  let functions ← compileFrom plan 0 module.functions
  program plan functions

def analyze (module : Wasm.Module) (options : Option Options) : Guarded Error (List FunctionStats) := do
  let settings ← (settingsOf options).mapError .fault
  let plan ← make module settings
  let functions ← compileFrom plan 0 module.functions
  return functions.map (·.stats)

end Guarded

lemma distinct_length {rounds : Nat} (names : List String) : (distinctNames rounds names).length = names.length := by
  induction rounds generalizing names with
  | zero => rfl
  | succ rounds ih =>
    unfold distinctNames
    split
    · rw [ih, renameClashing, length_mapIdx]
    · rfl

variable {functions : List Wasm.Function}

lemma function_names_length {debugNames : Bool} :
    (functionNames functions debugNames).length = functions.length := by
  rw [functionNames, distinct_length, length_mapIdx]

structure Exported (module : Wasm.Module) (item : Wasm.Export) : Prop where
  function : item.kind = .func → item.index.toNat < module.functions.length
  global : item.kind = .global → item.index.toNat < module.globals.length

structure Plan.Consistent (plan : Plan) : Prop where
  typed : plan.module.Typed
  named : plan.names.functionNames.length = plan.module.functions.length
  cells : plan.names.cells.length = plan.module.globals.length
  refs : ∀ index ∈ plan.refs, index < plan.module.functions.length
  exported : ∀ item ∈ plan.module.exports, Exported plan.module item

namespace Guarded

lemma check_exports_mirrors (module : Wasm.Module) (exports : List Wasm.Export) (cells : List Bool)
    (length : cells.length = module.globals.length) :
    Mirrors (fun made => made.length = module.globals.length ∧ ∀ item ∈ exports, Exported module item)
      (checkExports module exports cells) (Plan.checkExports module exports cells) := by
  induction exports generalizing cells with
  | nil => exact mirrors_value cells ⟨length, nofun⟩
  | cons item rest ih =>
    have further : ∀ made, Exported module item → made.length = module.globals.length →
        Mirrors (fun made => made.length = module.globals.length ∧ ∀ other ∈ item :: rest, Exported module other)
          (checkExports module rest made) (Plan.checkExports module rest made) := by
      intro made exported length
      refine mirrors_weaken (ih made length) ?_
      rintro last ⟨length, others⟩
      exact ⟨length, forall_mem_cons.mpr ⟨exported, others⟩⟩
    unfold checkExports Plan.checkExports
    cases kind : item.kind with
    | global =>
      refine mirrors_ite (fun inside => ?_) fun _ => mirrors_refuse _ nofun
      rw [put, if_pos (length ▸ inside)]
      exact further (cells.set item.index.toNat true) ⟨by rw [kind]; nofun, fun _ => inside⟩ (by rw [length_set, length])
    | func =>
      exact mirrors_ite (fun inside => further cells ⟨fun _ => inside, by rw [kind]; nofun⟩ length) fun _ => mirrors_refuse _ nofun
    | _ => exact further cells ⟨by rw [kind]; nofun, by rw [kind]; nofun⟩ length

variable {elements : List Wasm.ElementSegment}

lemma element_refs_reported {functions : Nat} (segment : Nat) :
    Plan.elementRefs functions segment elements ≠ .error .missingSignature := by
  induction elements generalizing segment with
  | nil => nofun
  | cons element rest ih =>
    unfold Plan.elementRefs
    split
    · nofun
    · cases found : Plan.elementRefs functions (segment + 1) rest with
      | error error =>
        intro failed
        cases failed
        exact ih (segment + 1) found
      | ok more => nofun

variable {module : Wasm.Module} {options : Option Options}

lemma make_mirrors (settings : Settings) (typed : module.Typed) :
    Mirrors (fun plan => plan.Consistent ∧ plan.module = module) (make module settings) (Plan.make module settings) := by
  refine mirrors_bind (check_exports_mirrors module module.exports _ (length_map _)) ?_
  rintro cells ⟨length, exported⟩
  refine mirrors_bind (mirrors_plain _ ?_) fun refs _ => ?_
  · rintro _ failed rfl
    exact element_refs_reported _ failed
  apply mirrors_value
  refine ⟨⟨typed, function_names_length, length, ?_, exported⟩, rfl⟩
  intro index listed
  exact mem_range.mp (mem_filter.mp listed).1

def settled : List CompiledFunction × Option Error → Except Error (List CompiledFunction)
  | (functions, none) => .ok functions
  | (_, some error) => .error error

variable {α : Type} {items : List α} {names : Target.Names} {index : Nat}

lemma chunks_from_found (items : List α) (size fuel start : Nat) :
    chunksFrom items size fuel start = .ok (Program.chunksFrom size start fuel (items.drop start)) := by
  induction fuel generalizing start with
  | zero => rfl
  | succ fuel ih =>
    unfold chunksFrom Program.chunksFrom
    by_cases done : items.length ≤ start
    · rw [if_pos done, drop_eq_nil_of_le done]
      rfl
    · have more : ¬ (items.drop start).isEmpty = true := by
        rw [List.isEmpty_iff, List.drop_eq_nil_iff]
        exact done
      have piece : (items.take (min (start + size) items.length)).drop start = (items.drop start).take size := by
        rw [drop_take, take_eq_take_iff, length_drop]
        omega
      rw [if_neg done, if_neg more, slice, if_pos (by omega), bind_value, ih, piece, drop_drop]
      rfl

lemma chunks_found {size : Nat} : chunks size items = .ok (Program.chunks size items) :=
  chunks_from_found items size items.length 0

lemma combine_mirrors {name : String} (type : Wasm.IntType) (op : Target.Arith) (stack : List TypedConstant) :
    Tracks (combine name type op stack) (Constant.combine name type op stack) := by
  unfold combine Constant.combine
  match stack with
  | [] | [_] => exact mirrors_refuse _ trivial
  | b :: a :: rest =>
    rw [if_neg (by simp)]
    apply mirrors_guard b rfl
    apply mirrors_guard a rfl
    exact mirrors_check _ trivial fun _ => mirrors_check _ trivial fun _ => tracks_value _

variable {globals : List Wasm.Global}

lemma constant_step_mirrors (stack : List TypedConstant)
    (instruction : Wasm.Instruction) (cells : names.cells.length = globals.length) :
    Tracks (constantStep names globals stack instruction) (step globals stack instruction) := by
  have others := mirrors_plain (step globals stack instruction) fun _ _ => trivial
  unfold constantStep
  split
  · rename_i named
    refine mirrors_lookup trivial (fun missing => ?_) fun global held => ?_
    · simp only [step, named, missing]
      rfl
    obtain ⟨inside, -⟩ := List.getElem?_eq_some_iff.mp held
    apply mirrors_guard _ (fetch_inside names.cells (cells ▸ inside))
    simp only [step, named, held]
    exact tracks_value _
  · rename_i type op named
    simp only [step, named]
    cases arith? op with
    | some op => exact combine_mirrors type op stack
    | none => exact mirrors_refuse _ trivial
  · exact others

lemma constant_of_mirrors (body : List Wasm.Instruction)
    (wanted : Wasm.ValueType) (cells : names.cells.length = globals.length) :
    Tracks (constantOf names globals body wanted) (ofBody globals body wanted) := by
  refine mirrors_bind (mirrors_fold body _ _ (fun stack instruction _ =>
    constant_step_mirrors stack instruction cells) [] trivial) ?_
  intro stack _
  cases stack with
  | nil => exact tracks_value _
  | cons result rest =>
    rw [if_neg (by simp)]
    apply mirrors_guard result rfl
    exact mirrors_check _ trivial fun _ => tracks_value _

section Consistent

variable {plan : Plan} (consistent : plan.Consistent)

include consistent

lemma body_of_mirrors (signature : Wasm.Signature) (function : Wasm.Function) (spilled : Bool) :
    Tracks (bodyOf plan index signature function) (plan.bodyAs index signature function spilled) := by
  rw [Plan.body_as]
  refine mirrors_map (compile_body_mirrors fun _ => ?_) ?_
  · exact ⟨consistent.typed, consistent.named, consistent.cells.trans (length_map _).symm⟩
  · rintro ⟨offset, fault⟩ reported
    cases fault with
    | missingSignature => exact absurd rfl reported
    | _ => nofun

lemma compile_function_mirrors {function : Wasm.Function} (held : plan.module.functions[index]? = some function) :
    Tracks (compileFunction plan index function) (plan.compileFunction index function) := by
  have typed := consistent.typed function (mem_of_getElem? held)
  obtain ⟨inside, -⟩ := List.getElem?_eq_some_iff.mp held
  have found : plan.module.type? function.type = some (plan.module.types.get ⟨_, typed⟩) := List.getElem?_eq_getElem typed
  have named : fetch plan.names.functionNames index = (.ok (plan.names.functionNames.getD index "") : Guarded Error String) := by
    rw [getD_eq_getElem?_getD, List.getElem?_eq_getElem (consistent.named ▸ inside)]
    exact fetch_inside plan.names.functionNames (consistent.named ▸ inside)
  rw [compileFunction, Plan.compileFunction, found]
  apply mirrors_guard _ (fetch_inside plan.module.types typed)
  refine mirrors_bind (body_of_mirrors consistent _ function false) fun body _ => mirrors_ite (fun _ => ?_) fun _ => ?_
  · exact mirrors_guard _ named (tracks_value _)
  · exact mirrors_bind (body_of_mirrors consistent _ function true) fun body _ => mirrors_guard _ named (tracks_value _)

lemma compile_from_mirrors (index : Nat)
    (placed : plan.module.functions.drop index = functions) : Tracks (compileFrom plan index functions)
      (settled (plan.compileFrom index functions)) := by
  induction functions generalizing index with
  | nil => exact tracks_value []
  | cons function rest ih =>
    have held : plan.module.functions[index]? = some function := by
      rw [← Nat.add_zero index, ← List.getElem?_drop, placed, List.getElem?_cons_zero]
    have later := ih (index + 1) (by rw [← drop_drop, placed, drop_one, tail_cons])
    unfold compileFrom Plan.compileFrom
    by_cases imported : function.origin.isSome = true
    · rw [if_pos imported, if_pos imported]
      exact later
    rw [if_neg imported, if_neg imported]
    have here := compile_function_mirrors consistent held
    rw [here.same]
    cases done : plan.compileFunction index function with
    | error error => exact mirrors_refuse error (here.fault error done)
    | ok compiled =>
      apply mirrors_guard compiled rfl
      rw [later.same]
      rcases ended : plan.compileFrom (index + 1) rest with ⟨more, _ | error⟩
      · exact tracks_value _
      · exact mirrors_refuse error (later.fault error (by rw [ended]; rfl))

omit consistent in
lemma found_at (inside : index < items.length) : ∃ item, items[index]? = some item := ⟨_, List.getElem?_eq_getElem inside⟩

section

variable (inside : index < plan.module.functions.length)

include inside

lemma callee_found : callee plan index = .ok (plan.callee index) := by
  obtain ⟨function, held⟩ := found_at inside
  unfold callee Plan.callee
  rw [held, fetch_held _ _ held, bind_value]
  by_cases imported : function.origin.isSome = true
  · simp only [if_pos imported]
    rfl
  · simp only [if_neg imported]
    rw [fetch_inside plan.names.functionNames (consistent.named ▸ inside)]
    rfl

lemma signature_key_mirrors :
    Tracks (signatureKey plan index) (plan.signatureKey index) := by
  obtain ⟨function, held⟩ := found_at inside
  obtain ⟨signature, typed⟩ := found_at (consistent.typed function (mem_of_getElem? held))
  have found : plan.module.signature? index = some signature := by
    rw [Wasm.Module.signature?, held]
    exact typed
  unfold signatureKey Plan.signatureKey
  rw [found, fetch_held _ _ held, bind_value, fetch_held _ _ typed]
  exact tracks_value _

lemma ref_mirrors :
    Tracks (ref plan index) (plan.ref index) := by
  refine mirrors_bind (signature_key_mirrors consistent inside) fun key _ => ?_
  rw [callee_found consistent inside]
  exact tracks_value _

end

lemma constant_mirrors {owner : ConstantOwner} {body : List Wasm.Instruction} {wanted : Wasm.ValueType} :
    Tracks (constant plan owner body wanted) (plan.constant owner body wanted) :=
  mirrors_map (constant_of_mirrors body wanted consistent.cells) fun _ _ => nofun

lemma globals_mirrors (index : Nat) (placed : index + globals.length = plan.module.globals.length) :
    Tracks (Guarded.globals plan index globals) (plan.globals index globals) := by
  induction globals generalizing index with
  | nil => exact tracks_value []
  | cons global rest ih =>
    rw [length_cons] at placed
    have later := ih (index + 1) (by omega)
    unfold Guarded.globals Plan.globals
    cases global.origin with
    | some origin => exact tracks_map later
    | none =>
      dsimp only
      rw [bind_map_left]
      refine mirrors_bind (constant_mirrors consistent) fun init _ => ?_
      have inside : index < plan.names.cells.length := by
        rw [consistent.cells]
        omega
      apply mirrors_guard _ (fetch_inside plan.names.cells inside)
      exact tracks_map later

lemma elements_mirrors (index : Nat) :
    Tracks (Guarded.elements plan index elements) (plan.elements index elements) := by
  induction elements generalizing index with
  | nil => exact tracks_value []
  | cons element rest ih =>
    unfold Guarded.elements Plan.elements
    split
    · exact ih (index + 1)
    · refine mirrors_check _ nofun fun _ => ?_
      refine mirrors_bind (constant_mirrors consistent) fun offset _ => ?_
      apply mirrors_guard _ chunks_found
      exact tracks_map (ih (index + 1))

lemma data_mirrors {data : List Wasm.DataSegment} (index : Nat) :
    Tracks (Guarded.data plan index data) (plan.data index data) := by
  induction data generalizing index with
  | nil => exact tracks_value []
  | cons segment rest ih =>
    unfold Guarded.data Plan.data
    split
    · exact ih (index + 1)
    · refine mirrors_check _ nofun fun _ => ?_
      refine mirrors_bind (constant_mirrors consistent) fun offset _ => ?_
      apply mirrors_guard _ chunks_found
      exact tracks_map (ih (index + 1))

lemma export_value_found {item : Wasm.Export} (exported : Exported plan.module item) :
    exportValue plan item = .ok (item.name, plan.exportValue item) := by
  unfold exportValue Plan.exportValue
  cases kind : item.kind with
  | func =>
    simp only
    rw [callee_found consistent (exported.function kind)]
    rfl
  | _ => rfl

lemma extern_type_mirrors (kind : Wasm.ExternKind) (index : UInt32)
    (function : kind = .func → index.toNat < plan.module.functions.length)
    (global : kind = .global → index.toNat < plan.module.globals.length) :
    Tracks (externType plan kind index) (plan.externType kind index) := by
  cases kind with
  | func =>
    exact tracks_map (signature_key_mirrors consistent (function rfl))
  | table =>
    apply mirrors_guard _ (element_type_found plan.module index)
    exact tracks_value _
  | global =>
    obtain ⟨entity, held⟩ := found_at (global rfl)
    unfold externType Plan.externType
    simp only [held]
    apply mirrors_guard entity (fetch_held _ _ held)
    exact tracks_value _
  | _ => exact tracks_value _

lemma imports_of_mirrors (kind : Wasm.ExternKind) {origins : List (Option Wasm.Import)} (index : Nat)
    (functions : kind = .func → index + origins.length ≤ plan.module.functions.length)
    (globals : kind = .global → index + origins.length ≤ plan.module.globals.length) :
    Tracks (importsOf plan kind index origins) (plan.importsOf kind index origins) := by
  induction origins generalizing index with
  | nil => exact tracks_value []
  | cons origin rest ih =>
    rw [length_cons] at functions globals
    have later := ih (index + 1) (fun same => by have := functions same; omega) (fun same => by have := globals same; omega)
    cases origin with
    | none => exact later
    | some origin =>
      have low : (UInt32.ofNat index).toNat ≤ index := by
        rw [UInt32.toNat_ofNat']
        exact Nat.mod_le _ _
      refine mirrors_bind (extern_type_mirrors consistent kind (UInt32.ofNat index) ?_ ?_) ?_
      · intro same
        have := functions same
        omega
      · intro same
        have := globals same
        omega
      intro type _
      exact tracks_map later

lemma import_list_mirrors : Tracks (importList plan) plan.importList := by
  have origins : ∀ {α : Type} (items : List α) (origin : α → Option Wasm.Import),
      0 + (items.map origin).length ≤ items.length := by
    intro α items origin
    exact Nat.le_of_eq (by rw [Nat.zero_add, length_map])
  refine mirrors_bind (imports_of_mirrors consistent .func 0 (fun _ => origins _ _) nofun) ?_
  intro functions _
  refine mirrors_bind (imports_of_mirrors consistent .table 0 nofun nofun) ?_
  intro tables _
  refine mirrors_bind (imports_of_mirrors consistent .memory 0 nofun nofun) ?_
  intro memories _
  refine mirrors_bind (imports_of_mirrors consistent .global 0 nofun (fun _ => origins _ _)) ?_
  intro globals _
  exact tracks_value _

lemma export_list_mirrors : Tracks (exportList plan) plan.exportList := by
  apply mirrors_each
  intro item member
  have exported := consistent.exported item member
  exact tracks_map (extern_type_mirrors consistent item.kind item.index exported.function exported.global)

lemma start_mirrors : Tracks (start plan) plan.start := by
  unfold start Plan.start
  cases plan.module.start with
  | none => exact tracks_value none
  | some index =>
    refine mirrors_ite (fun inside => ?_) fun _ => mirrors_refuse _ nofun
    rw [callee_found consistent inside]
    exact tracks_value _

lemma exports_found {items : List Wasm.Export} (exported : ∀ item ∈ items, Exported plan.module item) :
    items.mapM (exportValue plan) = .ok (items.map fun item => (item.name, plan.exportValue item)) := by
  induction items with
  | nil => rfl
  | cons item rest ih =>
    obtain ⟨first, others⟩ := forall_mem_cons.mp exported
    rw [mapM_cons, export_value_found consistent first, ih others]
    rfl

lemma program_mirrors (functions : List CompiledFunction) :
    Tracks (program plan functions) (plan.program functions) := by
  refine mirrors_bind (mirrors_each fun index listed =>
    ref_mirrors consistent (consistent.refs index listed)) fun refs _ => ?_
  refine mirrors_bind (globals_mirrors consistent 0 (Nat.zero_add _)) fun globals _ => ?_
  refine mirrors_bind (elements_mirrors consistent 0) fun elements _ => ?_
  refine mirrors_bind (data_mirrors consistent 0) fun data _ => ?_
  refine mirrors_bind (import_list_mirrors consistent) fun importList _ => ?_
  refine mirrors_bind (export_list_mirrors consistent) fun exportList _ => ?_
  refine mirrors_bind (start_mirrors consistent) fun start _ => ?_
  rw [exports_found consistent consistent.exported]
  exact tracks_value _

end Consistent

lemma settings_mirrors (options : Option Options) :
    Tracks ((settingsOf options).mapError .fault) (settingsOf options) := by
  apply mirrors_plain
  rintro _ failed rfl
  unfold settingsOf at failed
  split at failed
  · cases failed
  · split at failed <;> cases failed

section Whole

variable {module : Wasm.Module} (options : Option Options) (typed : module.Typed)

include typed

lemma staged_mirrors {α : Type} {guarded : Plan → List CompiledFunction → Guarded Error α}
    {finish : Plan → List CompiledFunction → Except Error α}
    (ends : ∀ plan functions, plan.Consistent → Tracks (guarded plan functions) (finish plan functions)) :
    Tracks (do
      let settings ← (settingsOf options).mapError .fault
      let plan ← make module settings
      let functions ← compileFrom plan 0 module.functions
      guarded plan functions)
      (settingsOf options >>= Plan.make module >>= fun plan =>
        settled (plan.compileFrom 0 module.functions) >>= finish plan) := by
  rw [bind_assoc]
  refine mirrors_bind (settings_mirrors options) fun settings _ => ?_
  refine mirrors_bind (make_mirrors settings typed) ?_
  rintro plan ⟨consistent, rfl⟩
  refine mirrors_bind (compile_from_mirrors consistent 0 drop_zero) fun functions _ => ?_
  exact ends plan functions consistent

lemma compile_mirrors : Tracks (compile module options) (Compile.compile module options) := by
  refine Eq.subst ?_ (staged_mirrors options typed fun _ functions consistent => program_mirrors consistent functions)
  unfold Compile.compile attempt
  rcases settingsOf options >>= Plan.make module with _ | plan
  · rfl
  change (settled (plan.compileFrom 0 module.functions) >>= plan.program) = _
  dsimp only
  rcases plan.compileFrom 0 module.functions with ⟨functions, _ | error⟩ <;> rfl

lemma analyze_mirrors : Tracks (analyze module options) (Compile.analyze module options) := by
  refine Eq.subst ?_ (staged_mirrors options typed fun _ _ _ => tracks_value _)
  unfold Compile.analyze
  rcases settingsOf options >>= Plan.make module with _ | plan
  · rfl
  change (settled (plan.compileFrom 0 module.functions) >>= fun functions => .ok (functions.map (·.stats))) = _
  dsimp only
  rcases plan.compileFrom 0 module.functions with ⟨functions, _ | error⟩ <;> rfl

end Whole

end Guarded

end WasmLua.Compile
