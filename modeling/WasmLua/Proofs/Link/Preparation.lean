import WasmLua.Proofs.Link.Assignments
import WasmLua.Proofs.Link.Offsets
import WasmLua.Proofs.Link.Places

namespace WasmLua.Exec

variable {ω α : Type}

def Object.Measured (object : Object) : Prop :=
  match object.body with
  | .memory content => content.size.le (.ofInt sizeLimit) = true
  | .table content => content.size.le (.ofInt sizeLimit) = true
  | _ => True

namespace Store

def Measured (store : Store ω) : Prop := ∀ object ∈ store.objects, object.Measured

/-- A store with new objects behind the ones that it held, and otherwise the same. -/
def Extends (before after : Store ω) : Prop :=
  ∃ fresh pairs, after = { before with objects := before.objects ++ fresh, pairs := pairs } ∧ ∀ object ∈ fresh, object.Measured

def Unchanged (before after : Store ω) : Prop := ∃ pairs, after = { before with pairs := pairs }

lemma unchanged_refl (store : Store ω) : Unchanged store store := ⟨store.pairs, rfl⟩

variable {before after : Store ω}

lemma unchanged_objects (same : Unchanged before after) : after.objects = before.objects := by
  obtain ⟨pairs, rfl⟩ := same
  rfl

lemma unchanged_trans (first second third : Store ω) (left : Unchanged first second)
    (right : Unchanged second third) : Unchanged first third := by
  obtain ⟨_, rfl⟩ := left
  obtain ⟨pairs, rfl⟩ := right
  exact ⟨pairs, rfl⟩

lemma extends_of_unchanged (same : Unchanged before after) : Extends before after := by
  obtain ⟨pairs, rfl⟩ := same
  exact ⟨#[], pairs, by simp, by simp⟩

lemma extends_refl (store : Store ω) : Extends store store :=
  extends_of_unchanged (unchanged_refl store)

lemma extends_trans (first second third : Store ω) (left : Extends first second)
    (right : Extends second third) : Extends first third := by
  obtain ⟨fresh, _, rfl, measured⟩ := left
  obtain ⟨newer, pairs, rfl, also⟩ := right
  refine ⟨fresh ++ newer, pairs, by simp [Array.append_assoc], ?_⟩
  intro object member
  rcases Array.mem_append.mp member with early | late
  · exact measured object early
  · exact also object late

lemma extends_measured (extended : Extends before after) (measured : before.Measured) : after.Measured := by
  obtain ⟨fresh, pairs, rfl, added⟩ := extended
  intro object member
  rcases Array.mem_append.mp member with old | new
  · exact measured object old
  · exact added object new

end Store

namespace Link

variable {owner : Instance} {index : UInt32} {store : Store ω}

lemma memory_of_eq : memoryOf owner index store = (match store.memory? (owner.memories.getD index.toNat .null) with
        | some memory => .ok (owner.memories.getD index.toNat .null, memory.size) store
        | none => .error .operand store) := by
  simp only [memoryOf, bind, EStateM.bind, get, getThe, MonadStateOf.get, EStateM.get]
  cases store.memory? (owner.memories.getD index.toNat .null) <;> rfl

lemma table_of_eq : tableOf owner index store = (match store.table? (owner.tables.getD index.toNat .null) with
        | some table => .ok (owner.tables.getD index.toNat .null, table) store
        | none => .error .operand store) := by
  simp only [tableOf, bind, EStateM.bind, get, getThe, MonadStateOf.get, EStateM.get]
  cases store.table? (owner.tables.getD index.toNat .null) <;> rfl

end Link

open Link (memory_of_eq table_of_eq)

inductive Segment where
  | element (init : Target.ElementInit)
  | data (init : Target.DataInit)

namespace Segment

def ofProgram (program : Target.Program) : List Segment := program.elements.map .element ++ program.data.map .data

def start : Segment → Target.Constant
  | .element init => init.offset
  | .data init => init.offset

def target (owner : Instance) : Segment → Value
  | .element init => owner.tables.getD init.table.toNat .null
  | .data init => owner.memories.getD init.memory.toNat .null

def items (owner : Instance) : Segment → List Value
  | .element init => init.functions.map fun
    | some function => owner.refs.getD function .null
    | none => .null
  | .data init => init.bytes.map fun byte => .number (.ofInt byte.toNat)

def trap : Segment → Trap
  | .element _ => .outOfBoundsTable
  | .data _ => .outOfBoundsMemory

def size? : Segment → Body → Option Number
  | .element _, .table content => some content.size
  | .data _, .memory content => some content.size
  | _, _ => none

def found? (owner : Instance) (segment : Segment) (store : Store ω) : Option (Body × Number) :=
  (store.object? (segment.target owner)).bind fun object =>
    (segment.size? object.body).map (object.body, ·)

def reach (owner : Instance) (segment : Segment) : Execution ω (Body × Number) := do
  match segment.found? owner (← get) with
  | some found => return found
  | none => throw .operand

def check (program : Target.Program) (owner : Instance) (segment : Segment) : Execution ω Unit := do
  let start ← Link.offset program owner segment.start
  let (_, size) ← segment.reach owner
  Execution.ofExcept (if size.lt (Arithmetic.unsigned start + .ofInt (segment.items owner).length)
    then .error (.trap segment.trap) else .ok ())

variable {program : Target.Program} {owner : Instance} {segment : Segment} {store : Store ω}

lemma reach_eq : segment.reach owner store = match segment.found? owner store with
      | some found => .ok found store
      | none => .error .operand store := by
  change (match segment.found? owner store with
    | some found => pure found
    | none => throw .operand : Execution ω (Body × Number)) store = _
  cases segment.found? owner store <;> rfl

lemma check_element (init : Target.ElementInit) : (do
      let start ← Link.offset program owner init.offset
      let (_, table) ← Link.tableOf owner init.table
      Execution.ofExcept (table.check start init.functions.length) : Execution ω Unit)
      = check program owner (.element init) := by
  refine bind_congr fun start => funext fun store => ?_
  simp only [bind, EStateM.bind, table_of_eq, reach_eq, found?, Store.table?, target, items, List.length_map]
  cases store.object? (owner.tables.getD init.table.toNat .null) with
  | none => rfl
  | some object =>
    obtain ⟨slot, body⟩ := object
    cases body <;> rfl

lemma check_data (init : Target.DataInit) : (do
      let start ← Link.offset program owner init.offset
      let (_, size) ← Link.memoryOf owner init.memory
      Execution.ofExcept (Memory.check size start init.bytes.length) : Execution ω Unit)
      = check program owner (.data init) := by
  refine bind_congr fun start => funext fun store => ?_
  simp only [bind, EStateM.bind, memory_of_eq, reach_eq, found?, Store.memory?, target, items, List.length_map]
  cases store.object? (owner.memories.getD init.memory.toNat .null) with
  | none => rfl
  | some object =>
    obtain ⟨slot, body⟩ := object
    cases body <;> rfl

lemma check_segments : (Link.checkSegments program owner : Execution ω Unit)
      = (ofProgram program).forM (check program owner) := by
  rw [ofProgram, List.forM_eq_forM, List.forM_append, List.forM_map, List.forM_map]
  simp only [Link.checkSegments, check_element, check_data, List.forM_eq_forM]

end Segment

namespace Link

open Store

section Checks

/-- Kept by an expression, which may make pairs or fail. -/
structure Steady (inside : Store ω → Prop) (fails : Raised → Store ω → Prop) : Prop where
  pairs : ∀ store pairs, inside store → inside { store with pairs := pairs }
  faults : ∀ (fault : Fault) store, inside store → fails fault.raised store

variable {inside : Store ω → Prop} {fails : Raised → Store ω → Prop} (steady : Steady inside fails)
  {program : Target.Program} {owner : Instance}

include steady

lemma except_leads :
    Leads inside (fun _ => inside) fails (Execution.ofExcept result : Execution ω α) := by
  intro store begun
  cases result with
  | ok value => exact begun
  | error fault => exact steady.faults fault store begun

lemma evaluate_leads (constant : Target.Constant) :
    Leads inside (fun _ => inside) fails (evaluate names owner constant) := by
  have made (made : Made) : Leads inside (fun _ => inside) fails (Execution.make made) := by
    intro store begun
    cases made with
    | held value => exact begun
    | fresh low high => exact steady.pairs store _ begun
  induction constant with
  | atom atom => exact made _
  | global index => exact fun store => except_leads steady store
  | arith type op a b first second =>
    refine leads_bind first fun value => leads_bind second fun operand => ?_
    exact leads_bind (except_leads steady) fun result => made result

lemma offset_leads (constant : Target.Constant) : Leads inside (fun _ => inside) fails (offset program owner constant) :=
  leads_bind (evaluate_leads steady constant) fun _ => except_leads steady

lemma check_leads (segment : Segment) : Leads inside (fun _ => inside) fails (segment.check program owner) := by
  refine leads_bind (offset_leads steady _) fun start => ?_
  refine leads_bind ?_ fun _ => except_leads steady
  intro store begun
  rw [Segment.reach_eq]
  cases segment.found? owner store with
  | some found => exact begun
  | none => exact steady.faults .operand store begun

lemma check_segments_leads : Leads inside (fun _ => inside) fails (checkSegments program owner) := by
  rw [Segment.check_segments]
  exact leads_each fun segment _ => check_leads steady segment

end Checks

lemma unchanged_steady (base : Store ω) : Steady (Unchanged base) fun _ => Unchanged base where
  pairs _ pairs same := unchanged_trans _ _ _ same ⟨pairs, rfl⟩
  faults _ _ same := same

variable {program : Target.Program}

lemma check_unchanged (passed : checkSegments program owner store = .ok () checked) : Unchanged store checked := by
  have kept := leads_ok (check_segments_leads (unchanged_steady store)) (unchanged_refl store) passed
  exact kept

lemma extends_pairs (base store : Store ω) (pairs : Nat) (extended : Extends base store) :
    Extends base { store with pairs := pairs } :=
  extends_trans _ _ _ extended (extends_of_unchanged ⟨pairs, rfl⟩)

section Making

lemma word_size_le (word : UInt32) (unit : Nat) (small : unit ≤ 65536) :
    ((Number.ofInt (word.toNat * unit : Nat)).le (.ofInt sizeLimit)) = true := by
  have below := word.toNat_lt
  rw [Number.le_int, decide_eq_true_eq]
  have : word.toNat * unit ≤ 2 ^ 32 * 65536 := Nat.mul_le_mul (by omega) small
  simp only [sizeLimit]
  omega

lemma memory_made (initial maximum : UInt32) :
    Object.Measured ⟨.null, .memory (.empty (.ofInt initial.toNat) (.ofInt maximum.toNat))⟩ := by
  have below := initial.toNat_lt
  have size := word_size_le initial 65536 (by decide)
  change ((Number.ofInt initial.toNat * Number.ofInt Wasm.pageSize).le (.ofInt sizeLimit)) = true
  rw [Number.mul_int (by simp only [Wasm.pageSize]; omega)]
  exact_mod_cast size

lemma table_made (initial maximum : UInt32) :
    Object.Measured ⟨.null, .table (.empty (.ofInt initial.toNat) (.ofInt maximum.toNat))⟩ := by
  have size := word_size_le initial 1 (by decide)
  rw [Nat.mul_one] at size
  exact size

lemma created_measured (created : Created body) : Object.Measured ⟨.null, body⟩ := by
  cases created with
  | memory initial maximum => exact memory_made initial maximum
  | table initial maximum => exact table_made initial maximum

variable {base : Store ω} {fails : Raised → Store ω → Prop}

lemma allocate_leads (measured : Object.Measured ⟨slot, body⟩) :
    Leads (Extends base) (fun _ => Extends base) fails (allocate body slot) := by
  intro store extended
  refine extends_trans _ _ _ extended ⟨#[⟨slot, body⟩], store.pairs, ?_, ?_⟩
  · simp only [← Array.push_eq_append]
  · intro object member
    rw [Array.mem_singleton.mp member]
    exact measured

open Target (Assignment)

lemma assign_leads {program : Target.Program} {imports : Imports} {id : Nat} {owner : Instance}
    {assignment : Assignment} (resolved : ∀ need, assignment.demand? = some need →
      Leads (Extends base) (fun _ => Extends base) fails (resolution imports need))
    (oversized : ∀ raised, Oversized raised → ∀ store, Extends base store → fails raised store)
    (faults : ∀ index init, assignment = .global index (.created init) →
      ∀ (fault : Fault) store, Extends base store → fails fault.raised store) :
    Leads (Extends base) (fun _ => Extends base) fails (assign program imports id owner assignment) := by
  have supplied : Leads (Extends base) (fun _ => Extends base) fails (supply program imports id owner assignment) := by
    refine supply_leads ⟨resolved, oversized, ?_, fun _ _ _ extended => extended, ?_, ?_⟩
    · exact fun body created => allocate_leads (created_measured created)
    · exact fun index init same => evaluate_leads ⟨extends_pairs base, faults index init same⟩ init
    · exact fun value => allocate_leads trivial
  exact leads_bind supplied fun _ _ extended => extended

lemma prepare_leads {imports : Imports} {id : Nat} (resolved : ∀ need ∈ program.demands,
      Leads (Extends base) (fun _ => Extends base) fails (resolution imports need))
    (oversized : ∀ raised, Oversized raised → ∀ store, Extends base store → fails raised store)
    (faults : ∀ (fault : Fault) store, Extends base store → fails fault.raised store) :
    Leads (Extends base) (fun _ => Extends base) fails (prepare program imports id) := by
  rw [prepare_assigns]
  refine leads_bind (leads_fold (fun _ => Extends base) _ fun owner assignment member => ?_) fun owner =>
    leads_bind (check_segments_leads ⟨extends_pairs base, faults⟩) fun _ _ extended => extended
  refine assign_leads (fun need asked => resolved need ?_) oversized fun _ _ _ => faults
  rw [program.demands_assigned]
  exact List.mem_filterMap.mpr ⟨assignment, member, asked⟩

lemma resolution_extends (imports : Imports) (need : Wasm.Import × Wasm.Demand) :
    Leads (Extends base) (fun _ => Extends base) (fun _ => Extends base) (resolution imports need) := by
  intro store extended
  unfold resolution
  cases resolve store imports need.1 need.2 with
  | ok value | error raised => exact extended

lemma prepare_extends (program : Target.Program) (imports : Imports) (id : Nat) (base : Store ω) :
    Leads (Extends base) (fun _ => Extends base) (fun _ => Extends base) (prepare program imports id) :=
  prepare_leads (fun need _ => resolution_extends imports need) (fun _ _ _ extended => extended) fun _ _ extended => extended

end Making

end Link

end WasmLua.Exec
