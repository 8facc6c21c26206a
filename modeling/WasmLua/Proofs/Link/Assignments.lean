import WasmLua.Exec.Link
import WasmLua.Proofs.Fields.Mentions

namespace WasmLua.Wasm

inductive Demand where
  | func
  | memory (limits : Limits)
  | table (limits : Limits)
  | global
deriving DecidableEq, Repr

end WasmLua.Wasm

namespace WasmLua.Target

open Wasm (Demand)

def Provision.demand? (ask : Wasm.Limits → Demand) : Provision → Option (Wasm.Import × Demand)
  | .imported origin limits => some (origin, ask limits)
  | .created _ _ => none

def GlobalInit.origin? : GlobalInit → Option Wasm.Import
  | .imported origin => some origin
  | .created _ => none

def Program.demands (program : Program) : List (Wasm.Import × Demand) :=
  program.functionImports.map (fun entry => (entry.2, .func)) ++ program.memories.filterMap (Provision.demand? .memory)
    ++ program.tables.filterMap (Provision.demand? .table)
    ++ program.globals.filterMap (fun init => init.origin?.map (·, .global))

def Assignment.demand? : Assignment → Option (Wasm.Import × Demand)
  | .function _ origin => some (origin, .func)
  | .memory _ provision => provision.demand? .memory
  | .table _ provision => provision.demand? .table
  | .ref _ => none
  | .global _ init => init.origin?.map (·, .global)

lemma demands_numbered {α : Type} (items : List α) (number : Nat → α → Assignment)
    (plain : α → Option (Wasm.Import × Demand)) (same : ∀ index item, (number index item).demand? = plain item) :
    (items.mapIdx number).filterMap (·.demand?) = items.filterMap plain := by
  rw [List.mapIdx_eq_zipIdx_map, List.filterMap_map]
  conv_rhs => rw [← List.zipIdx_map_fst 0 items, List.filterMap_map]
  exact List.filterMap_congr fun entry _ => same entry.2 entry.1

lemma Program.demands_assigned (program : Program) : program.demands = program.assignments.filterMap (·.demand?) := by
  have functions : program.functionSteps.filterMap (·.demand?)
      = program.functionImports.map fun entry => (entry.2, Demand.func) := by
    rw [functionSteps, List.filterMap_map, ← List.filterMap_eq_map]
    rfl
  have refs : program.refSteps.filterMap (·.demand?) = [] := by
    simp [refSteps, Assignment.demand?]
  simp only [demands, assignments, memorySteps, tableSteps, globalSteps, List.filterMap_append, functions,
    refs, List.append_nil, demands_numbered _ .memory _ fun _ _ => rfl,
    demands_numbered _ .table _ fun _ _ => rfl, demands_numbered _ .global _ fun _ _ => rfl]
  rfl

end WasmLua.Target

namespace WasmLua.Exec

section Leads

variable {ε σ α β : Type}

/-- What an action comes to from the states that it is meant for. -/
def Leads (before : σ → Prop) (after : α → σ → Prop) (fails : ε → σ → Prop) (action : EStateM ε σ α) : Prop :=
  ∀ state, before state → match action state with
    | .ok value final => after value final
    | .error raised final => fails raised final

variable {before : σ → Prop} {after : α → σ → Prop} {fails : ε → σ → Prop} {action : EStateM ε σ α}

lemma leads_ok (leads : Leads before after fails action)
    (begun : before state) (ran : action state = .ok value final) : after value final := by
  have ends := leads state begun
  rwa [ran] at ends

variable {first : EStateM ε σ β}

variable {next : β → EStateM ε σ α}

lemma leads_bind (leads : Leads before middle fails first) (rest : ∀ value, Leads (middle value) after fails (next value)) :
    Leads before after fails (first >>= next) := by
  intro state begun
  have ends := leads state begun
  simp only [bind, EStateM.bind]
  generalize first state = ran at ends ⊢
  cases ran with
  | ok value final => exact rest value final ends
  | error raised final => exact ends

lemma leads_stopped (leads : Leads before (fun _ _ => False) fails first) : Leads before after fails (first >>= next) :=
  leads_bind leads fun _ _ never => never.elim

variable (invariant : α → σ → Prop) {items : List β} {step : α → β → EStateM ε σ α}

lemma leads_fold (start : α) (each : ∀ value, ∀ item ∈ items, Leads (invariant value) invariant fails (step value item)) :
    Leads (invariant start) invariant fails (items.foldlM step start) := by
  induction items generalizing start with
  | nil => exact fun _ begun => begun
  | cons first rest ih =>
    rw [List.foldlM_cons]
    exact leads_bind (each start first List.mem_cons_self) fun value =>
      ih value fun value item member => each value item (List.mem_cons_of_mem _ member)

lemma leads_fold_stopped (start : α) (member : bad ∈ items)
    (each : ∀ value, ∀ item ∈ items, Leads (invariant value) invariant fails (step value item))
    (stopped : ∀ value, Leads (invariant value) (fun _ _ => False) fails (step value bad)) :
    Leads (invariant start) after fails (items.foldlM step start) := by
  obtain ⟨early, late, rfl⟩ := List.append_of_mem member
  rw [List.foldlM_append]
  refine leads_bind (leads_fold invariant start fun value item inside =>
    each value item (List.mem_append_left _ inside)) fun value => ?_
  rw [List.foldlM_cons]
  exact leads_stopped (stopped value)

lemma leads_each {invariant : σ → Prop} {action : β → EStateM ε σ Unit}
    (each : ∀ item ∈ items, Leads invariant (fun _ => invariant) fails (action item)) :
    Leads invariant (fun _ => invariant) fails (items.forM action) := by
  induction items with
  | nil => exact fun _ begun => begun
  | cons first rest ih =>
    exact leads_bind (each first List.mem_cons_self) fun _ =>
      ih fun item member => each item (List.mem_cons_of_mem _ member)

end Leads

variable {ω α : Type}

open Target (Assignment Field Program)
open Wasm (Demand)

def Instance.put (owner : Instance) (value : Value) : Field → Instance
  | .function index => { owner with functions := owner.functions.setIfInBounds index value }
  | .memory _ => { owner with memories := owner.memories.push value }
  | .table _ => { owner with tables := owner.tables.push value }
  | .ref index => { owner with refs := owner.refs.setIfInBounds index value }
  | .global _ => { owner with globals := owner.globals.push value }

namespace Link

def resolve (store : Store ω) (imports : Imports) (origin : Wasm.Import) : Demand → Except Raised Value
  | .func => findFunction imports origin
  | .memory limits => findMemory store imports origin limits
  | .table limits => findTable store imports origin limits
  | .global => findGlobal imports origin

def resolution (imports : Imports) (need : Wasm.Import × Demand) : Execution ω Value := fun store =>
  ofExcept (resolve store imports need.1 need.2) store

def Oversized (raised : Raised) : Prop := raised = fault (Bytes.ofString "memory size exceeds maximum") ∨
    raised = fault (Bytes.ofString "table size exceeds maximum")

section Assignments

variable (program : Program) (imports : Imports) (id : Nat)

def supply (owner : Instance) : Assignment → Execution ω Value
  | .function _ origin => ofExcept (findFunction imports origin)
  | .memory _ provision => memory imports provision
  | .table _ provision => table imports provision
  | .ref init => pure (refValue id owner init)
  | .global index init => globalValue program imports owner index init

def assign (owner : Instance) (assignment : Assignment) : Execution ω Instance := do
  return owner.put (← supply program imports id owner assignment) assignment.field

variable {m : Type → Type} {owner : Instance} {items : List α}

lemma foldlM_numbered {β : Type} [Monad m] {number : Nat → α → β} {step : Instance → β → m Instance} :
    (items.mapIdx number).foldlM step owner
      = items.zipIdx.foldlM (fun owner entry => step owner (number entry.2 entry.1)) owner := by
  rw [List.mapIdx_eq_zipIdx_map, List.foldlM_map]

lemma foldlM_unnumbered [Monad m] {step : Instance → α → m Instance} :
    items.zipIdx.foldlM (fun owner entry => step owner entry.1) owner = items.foldlM step owner := by
  rw [← List.foldlM_map, List.zipIdx_map_fst]

lemma prepare_assigns : (prepare program imports id : Execution ω Instance) = (do
      let owner ← program.assignments.foldlM (assign program imports id) (.empty program.functionNames.length)
      checkSegments program owner
      return exports program id owner) := by
  have functionsStep (owner : Instance) : functions program imports owner
      = (program.functionSteps.foldlM (assign program imports id) owner : Execution ω Instance) := by
    rw [Program.functionSteps, List.foldlM_map]
    rfl
  have memoriesStep (owner : Instance) : memories program imports owner
      = (program.memorySteps.foldlM (assign program imports id) owner : Execution ω Instance) := by
    rw [Program.memorySteps, foldlM_numbered]
    exact foldlM_unnumbered.symm
  have tablesStep (owner : Instance) : tables program imports owner
      = (program.tableSteps.foldlM (assign program imports id) owner : Execution ω Instance) := by
    rw [Program.tableSteps, foldlM_numbered]
    exact foldlM_unnumbered.symm
  have refsStep (owner : Instance) : pure (refs program id owner)
      = (program.refSteps.foldlM (assign program imports id) owner : Execution ω Instance) := by
    rw [Program.refSteps, List.foldlM_map, refs, ← List.foldlM_pure]
    rfl
  have globalsStep (owner : Instance) : globals program imports owner
      = (program.globalSteps.foldlM (assign program imports id) owner : Execution ω Instance) := by
    rw [Program.globalSteps, foldlM_numbered]
    rfl
  simp only [prepare, Program.assignments, List.foldlM_append, bind_assoc, functionsStep, memoriesStep,
    tablesStep, globalsStep, ← refsStep, pure_bind]

end Assignments

inductive Created : Body → Prop where
  | memory (initial maximum : UInt32) :
      Created (.memory (.empty (.ofInt initial.toNat) (.ofInt maximum.toNat)))
  | table (initial maximum : UInt32) :
      Created (.table (.empty (.ofInt initial.toNat) (.ofInt maximum.toNat)))

/-- What the ways to the value of a field lead to. -/
structure Supplies (program : Program) (imports : Imports) (id : Nat) (owner : Instance)
    (before : Store ω → Prop) (after : Value → Store ω → Prop) (fails : Raised → Store ω → Prop)
    (assignment : Assignment) : Prop where
  resolved : ∀ need, assignment.demand? = some need → Leads before after fails (resolution imports need)
  oversized : ∀ raised, Oversized raised → ∀ store, before store → fails raised store
  created : ∀ body, Created body → Leads before after fails (allocate body .null)
  ref : ∀ init, assignment = .ref init → ∀ store, before store → after (refValue id owner init) store
  evaluated : ∀ index init, assignment = .global index (.created init) →
    Leads before after fails (evaluate program.toNames owner init)
  cell : ∀ value, Leads (after value) after fails (allocate .cell value)

variable {program : Program} {imports : Imports} {id : Nat} {owner : Instance} {before : Store ω → Prop}
  {after : Value → Store ω → Prop} {fails : Raised → Store ω → Prop} {assignment : Assignment}

lemma supply_leads (supplies : Supplies program imports id owner before after fails assignment) :
    Leads before after fails (supply program imports id owner assignment) := by
  cases assignment with
  | function index origin => exact supplies.resolved _ rfl
  | ref init => exact supplies.ref init rfl
  | memory index provision =>
    cases provision with
    | imported origin limits => exact supplies.resolved _ rfl
    | created initial maximum =>
      simp only [supply, memory]
      split
      · exact supplies.oversized _ (.inl rfl)
      · exact supplies.created _ (.memory initial maximum)
  | table index provision =>
    cases provision with
    | imported origin limits => exact supplies.resolved _ rfl
    | created initial maximum =>
      simp only [supply, table]
      split
      · exact supplies.oversized _ (.inr rfl)
      · exact supplies.created _ (.table initial maximum)
  | global index init =>
    cases init with
    | imported origin => exact supplies.resolved _ rfl
    | created init =>
      refine leads_bind (supplies.evaluated index init rfl) fun value => ?_
      split
      · exact supplies.cell value
      · exact fun _ done => done

end Link

end WasmLua.Exec
