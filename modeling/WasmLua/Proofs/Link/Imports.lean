import WasmLua.Exec.Instantiate
import WasmLua.Proofs.Binary.Decoding
import WasmLua.Proofs.Description.RoundTrip
import WasmLua.Proofs.Link.Atomic

namespace WasmLua.Wasm

def Limits.Admit (limits : Limits) (size maximum : Number) : Prop := size.lt (.ofInt limits.initial.toNat) = false ∧
    ∀ bound, limits.maximum = some bound → (Number.ofInt bound.toNat).lt maximum = false

namespace Module

def demands (module : Module) : List (Import × Demand) :=
  module.functions.filterMap (fun function => function.origin.map (·, .func))
    ++ module.memories.filterMap (fun memory => memory.origin.map (·, .memory memory.limits))
    ++ module.tables.filterMap (fun table => table.origin.map (·, .table table.limits))
    ++ module.globals.filterMap (fun global => global.origin.map (·, .global))

end Module

end WasmLua.Wasm

namespace WasmLua.Compile.Plan

open Wasm (Demand)

lemma provisions_demanded {α : Type} (items : List α) {origin : α → Option Wasm.Import}
    {limits : α → Wasm.Limits} {cap : UInt32} {ask : Wasm.Limits → Demand} :
    (items.map fun item => provision (origin item) (limits item) cap).filterMap (Target.Provision.demand? ask)
      = items.filterMap fun item => (origin item).map (·, ask (limits item)) := by
  rw [List.filterMap_map]
  refine List.filterMap_congr fun item _ => ?_
  cases known : origin item with
  | none | some found => simp [known, provision, Target.Provision.demand?]

lemma functions_demanded (functions : List Wasm.Function) (first : Nat) :
    ((functions.mapIdx fun i f => (first + i, f.origin)).filterMap
        fun (i, origin) => origin.map (i, ·)).map (fun entry => (entry.2, Demand.func))
      = functions.filterMap fun function => function.origin.map (·, .func) := by
  induction functions generalizing first with
  | nil => rfl
  | cons function rest ih =>
    have later := ih (first + 1)
    simp only [Nat.add_assoc, Nat.add_comm 1] at later
    rw [List.mapIdx_cons, List.filterMap_cons, List.filterMap_cons, ← later]
    cases function.origin <;> rfl

lemma globals_origins {plan : Plan} {globals : List Wasm.Global} {inits : List Target.GlobalInit}
    (made : List.Forall₂ plan.Initializes globals inits) : inits.map Target.GlobalInit.origin? = globals.map (·.origin) := by
  induction made with
  | nil => rfl
  | @cons global init _ _ here _ ih =>
    rw [List.map_cons, List.map_cons, ih]
    cases init with
    | imported origin => rw [show global.origin = some origin from here]; rfl
    | created init => rw [here.1]; rfl

end WasmLua.Compile.Plan

namespace WasmLua.Compile

lemma compiled_demands {module : Wasm.Module} {options : Option Options} {program : Target.Program}
    (accepted : compile module options = .ok program) : program.demands = module.demands ∧
      program.globals.map Target.GlobalInit.origin? = module.globals.map (·.origin) := by
  obtain ⟨plan, functions, compiles⟩ := compile_steps accepted
  obtain rfl := compiles.planned
  have assembled := compiles.assembled
  have origins := Plan.globals_origins (Plan.globals_made 0 _ assembled.globals)
  refine ⟨?_, origins⟩
  have asked : program.globals.filterMap (fun init => init.origin?.map (·, Wasm.Demand.global))
      = plan.module.globals.filterMap fun global => global.origin.map (·, .global) := by
    have both := congrArg (List.filterMap (Option.map fun origin => (origin, Wasm.Demand.global))) origins
    rwa [List.filterMap_map, List.filterMap_map] at both
  have functionsSame := Plan.functions_demanded plan.module.functions 0
  simp only [Nat.zero_add] at functionsSame
  simp only [Target.Program.demands, Wasm.Module.demands, assembled.functionImports, assembled.memories,
    assembled.tables, functionsSame, asked, Plan.provisions_demanded plan.module.memories, Plan.provisions_demanded plan.module.tables]

end WasmLua.Compile

namespace WasmLua.Exec

open Wasm (Demand)

variable {ω α β : Type}

namespace Entity

def Meets (store : Store ω) : Entity ω → Demand → Prop
  | .host _ _, .func => True
  | .value held, .memory limits =>
    ∃ memory, store.memory? held = some memory ∧ limits.Admit memory.pages memory.maximum
  | .value held, .table limits =>
    ∃ table, store.table? held = some table ∧ limits.Admit table.size table.maximum
  | .value held, .global => ∃ slot, store.object? held = some ⟨slot, .cell⟩
  | _, _ => False

def Disguised (store : Store ω) : Entity ω → Demand → Prop
  | .value held, .global => (store.memory? held).isSome ∨ (store.table? held).isSome
  | _, _ => False

def Plain (store : Store ω) : Entity ω → Prop
  | .host _ _ => True
  | .value held => ∃ address slot body, held = .object address ∧
      store.objects[address]? = some ⟨slot, body⟩ ∧ ∀ record, body ≠ .record record
  | .unsupported _ => False

def Stands : Entity ω → Value → Prop
  | .host _ _, held => ∃ id, held = .function (.host id)
  | .value found, held => held = found
  | .unsupported _, _ => False

end Entity

namespace Supply

def entity? (supply : Supply ω) (origin : Wasm.Import) : Option (Entity ω) :=
  ((supply.lookup origin.module).getD []).lookup origin.field

def Plain (store : Store ω) (supply : Supply ω) : Prop := ∀ fields ∈ supply, ∀ entry ∈ fields.2, entry.2.Plain store

end Supply

lemma lookup_related {γ : Type} {related : β → γ → Prop} {entries : List (Bytes × β)} {others : List (Bytes × γ)}
    (all : List.Forall₂ (fun entry other => entry.1 = other.1 ∧ related entry.2 other.2) entries others)
    (key : Bytes) : Option.Rel related (entries.lookup key) (others.lookup key) := by
  induction all with
  | nil => exact .none
  | @cons entry other entries others first rest ih =>
    obtain ⟨name, item⟩ := entry
    obtain ⟨_, value⟩ := other
    obtain ⟨rfl, held⟩ := first
    rw [List.lookup_cons, List.lookup_cons]
    cases key == name with
    | true => exact .some held
    | false => exact ih

namespace Supply

variable {store base : Store ω}

lemma bind_entered {action : Embedding ω α} {next : α → Embedding ω β} {after : Store ω} {value : α}
    (ran : action store = .ok value after) : (action >>= next) store = next value after := by
  simp only [bind, EStateM.bind, ran]

lemma entries_entered {γ δ : Type} {related : γ → δ → Prop} {enter : γ → Embedding ω δ} (items : List γ)
    (each : ∀ item ∈ items, ∀ store, ∃ value hosts,
      enter item store = .ok value { store with hosts := hosts } ∧ related item value) (store : Store ω) :
    ∃ values hosts, items.mapM enter store = .ok values { store with hosts := hosts } ∧ List.Forall₂ related items values := by
  induction items generalizing store with
  | nil => exact ⟨[], store.hosts, rfl, .nil⟩
  | cons item rest ih =>
    obtain ⟨value, hosts, entered, held⟩ := each item List.mem_cons_self store
    obtain ⟨values, more, others, all⟩ :=
      ih (fun item member => each item (List.mem_cons_of_mem _ member)) { store with hosts := hosts }
    refine ⟨value :: values, more, ?_, .cons held all⟩
    rw [List.mapM_cons]
    refine (bind_entered entered).trans ?_
    exact bind_entered others

lemma entity_entered (module field : Bytes) {entity : Entity ω} (store : Store ω) (plain : entity.Plain base) :
    ∃ value hosts, entity.enter module field store = .ok value { store with hosts := hosts } ∧ entity.Stands value := by
  cases entity with
  | host signature run => exact ⟨_, _, rfl, store.hosts.size, rfl⟩
  | value held => exact ⟨held, store.hosts, rfl, rfl⟩
  | unsupported type => exact plain.elim

lemma fields_entered (module : Bytes) {fields : List (Bytes × Entity ω)} (store : Store ω)
    (plain : ∀ entry ∈ fields, entry.2.Plain base) : ∃ values hosts,
      (fields.mapM (fun (field, entity) => do return (field, ← entity.enter module field))
        : Embedding ω (List (Bytes × Value))) store = .ok values { store with hosts := hosts } ∧
      List.Forall₂ (fun entry value => entry.1 = value.1 ∧ entry.2.Stands value.2) fields values := by
  refine entries_entered fields (fun entry inside store => ?_) store
  obtain ⟨value, hosts, entered, stands⟩ := entity_entered module entry.1 store (plain entry inside)
  exact ⟨(entry.1, value), hosts, bind_entered entered, rfl, stands⟩

lemma supply_entered {supply : Supply ω} (plain : supply.Plain store) :
    ∃ imports hosts, supply.enter store = .ok imports { store with hosts := hosts } ∧
      List.Forall₂ (fun fields values => fields.1 = values.1 ∧
        List.Forall₂ (fun entry value => entry.1 = value.1 ∧ entry.2.Stands value.2) fields.2 values.2)
        supply imports := by
  refine entries_entered supply (fun fields member base => ?_) store
  obtain ⟨values, hosts, entered, all⟩ := fields_entered fields.1 base (plain fields member)
  exact ⟨(fields.1, values), hosts, bind_entered entered, rfl, all⟩

lemma enter_stands (supply : Supply ω) (store : Store ω) (plain : supply.Plain store) :
    ∃ imports hosts, supply.enter store = .ok imports { store with hosts := hosts } ∧ ∀ origin, match supply.entity? origin with
        | some entity => entity.Stands (Link.supplied imports origin)
        | none => Link.supplied imports origin = .null := by
  obtain ⟨imports, hosts, entered, all⟩ := supply_entered plain
  refine ⟨imports, hosts, entered, ?_⟩
  intro origin
  have modules := lookup_related all origin.module
  rw [entity?, Link.supplied]
  generalize supply.lookup origin.module = fields, imports.lookup origin.module = values at modules ⊢
  cases modules with
  | none => rfl
  | @some fields values both =>
    have found := lookup_related both origin.field
    rw [Option.getD_some, Option.getD_some]
    generalize fields.lookup origin.field = entity, values.lookup origin.field = value at found ⊢
    cases found with
    | none => rfl
    | some stands => exact stands

end Supply

namespace Link

def Refusal (raised : Raised) : Prop := ∃ origin, raised = incompatible origin ∨ ∃ kind, raised = unknown kind origin

open Store (Extends)

variable {base store : Store ω} {address : Nat} {origin : Wasm.Import} {imports : Imports} {value : Value}

lemma extends_object (extended : Extends base store) {object : Object}
    (held : base.objects[address]? = some object) : store.object? (.object address) = some object := by
  obtain ⟨fresh, pairs, rfl, -⟩ := extended
  obtain ⟨inside, -⟩ := Array.getElem?_eq_some_iff.mp held
  rw [Store.object?, Array.getElem?_append_left inside, held]

lemma within_allows {limits : Wasm.Limits} {size maximum : Number} :
    within limits size maximum = true ↔ limits.Admit size maximum := by
  unfold within Wasm.Limits.Admit
  cases limits.maximum <;> simp

def Suits (store : Store ω) (supply : Supply ω) (need : Wasm.Import × Demand) : Prop :=
  ∃ entity, supply.entity? need.1 = some entity ∧ (entity.Meets store need.2 ∨ entity.Disguised store need.2)

def Imports.From (supply : Supply ω) (imports : Imports) : Prop := ∀ origin, match supply.entity? origin with
    | some entity => entity.Stands (supplied imports origin)
    | none => supplied imports origin = .null

lemma entity_plain {supply : Supply ω} (plain : supply.Plain base) {entity : Entity ω}
    (found : supply.entity? origin = some entity) : entity.Plain base := by
  rw [Supply.entity?] at found
  cases modules : supply.lookup origin.module with
  | none => simp [modules] at found
  | some fields =>
    rw [modules, Option.getD_some] at found
    obtain ⟨_, _, rfl, -⟩ := List.lookup_eq_some_iff.mp modules
    obtain ⟨_, _, rfl, -⟩ := List.lookup_eq_some_iff.mp found
    exact plain _ (List.mem_append_right _ List.mem_cons_self) _ (List.mem_append_right _ List.mem_cons_self)

section

variable (store : Store ω)

lemma missing_refused (demand : Demand) (missing : supplied imports origin = .null) :
    ∃ raised, resolve store imports origin demand = .error raised ∧ Refusal raised := by
  have absent (kind : Wasm.ExternKind) : find imports kind origin = .error (unknown kind origin) := by
    rw [find, missing]
  cases demand with
  | func => exact ⟨unknown .func origin, by rw [resolve, findFunction, absent]; rfl, origin, .inr ⟨_, rfl⟩⟩
  | memory limits =>
    exact ⟨unknown .memory origin, by rw [resolve, findMemory, absent]; rfl, origin, .inr ⟨_, rfl⟩⟩
  | table limits =>
    exact ⟨unknown .table origin, by rw [resolve, findTable, absent]; rfl, origin, .inr ⟨_, rfl⟩⟩
  | global =>
    exact ⟨unknown .global origin, by rw [resolve, findGlobal, absent]; rfl, origin, .inr ⟨_, rfl⟩⟩

lemma resolve_function (demand : Demand) {id : Nat}
    (held : supplied imports origin = .function (.host id)) : resolve store imports origin demand =
      if demand = .func then .ok (.function (.host id)) else .error (incompatible origin) := by
  have present (kind : Wasm.ExternKind) : find imports kind origin = .ok (.function (.host id)) := by
    rw [find, held]
  cases demand with
  | func => rw [resolve, findFunction, present]; rfl
  | memory limits => rw [resolve, findMemory, present]; rfl
  | table limits => rw [resolve, findTable, present]; rfl
  | global => rw [resolve, findGlobal, present]; rfl

lemma find_memory_of (limits : Wasm.Limits)
    (present : find imports .memory origin = .ok value) : findMemory store imports origin limits =
      match store.memory? value with
      | some memory => if within limits memory.pages memory.maximum then .ok value
        else .error (incompatible origin)
      | none => .error (incompatible origin) := by
  simp only [findMemory, present, bind, Except.bind]
  cases store.memory? value <;> rfl

lemma find_table_of (limits : Wasm.Limits)
    (present : find imports .table origin = .ok value) : findTable store imports origin limits =
      match store.table? value with
      | some table => if within limits table.size table.maximum then .ok value
        else .error (incompatible origin)
      | none => .error (incompatible origin) := by
  simp only [findTable, present, bind, Except.bind]
  cases store.table? value <;> rfl

end

lemma resolve_object (extended : Extends base store) (demand : Demand) {slot : Value} {body : Body}
    (inside : base.objects[address]? = some ⟨slot, body⟩) (shaped : ∀ record, body ≠ .record record)
    (held : supplied imports origin = .object address) : ((Entity.value (.object address) : Entity ω).Meets base demand ∨
        (Entity.value (.object address) : Entity ω).Disguised base demand → resolve store imports origin demand = .ok (.object address)) ∧
    (¬ ((Entity.value (.object address) : Entity ω).Meets base demand ∨ (Entity.value (.object address) : Entity ω).Disguised base demand) →
      resolve store imports origin demand = .error (incompatible origin)) := by
  have present (kind : Wasm.ExternKind) : find imports kind origin = .ok (.object address) := by
    rw [find, held]
  have before : base.object? (.object address) = some ⟨slot, body⟩ := inside
  have after := extends_object extended inside
  cases demand with
  | func =>
    refine ⟨?_, fun _ => by rw [resolve, findFunction, present]; rfl⟩
    rintro (met | hidden)
    · exact met.elim
    · exact hidden.elim
  | global =>
    refine ⟨fun _ => by rw [resolve, findGlobal, present]; rfl, ?_⟩
    intro unsuited
    refine absurd ?_ unsuited
    cases body with
    | cell => exact .inl ⟨slot, before⟩
    | memory content => exact .inr (.inl (by rw [Store.memory?, before]; rfl))
    | table content => exact .inr (.inr (by rw [Store.table?, before]; rfl))
    | record content => exact absurd rfl (shaped content)
  | memory limits =>
    have same : store.memory? (.object address) = base.memory? (.object address) := by
      rw [Store.memory?, Store.memory?, before, after]
    rw [resolve, find_memory_of _ _ (present _), same]
    constructor
    · rintro (⟨memory, found, admits⟩ | hidden)
      · simp only [found, if_pos ((within_allows).mpr admits)]
      · exact hidden.elim
    · intro unsuited
      cases found : base.memory? (.object address) with
      | none => rfl
      | some memory =>
        exact if_neg fun fits => unsuited (.inl ⟨memory, found, within_allows.mp fits⟩)
  | table limits =>
    have same : store.table? (.object address) = base.table? (.object address) := by
      rw [Store.table?, Store.table?, before, after]
    rw [resolve, find_table_of _ _ (present _), same]
    constructor
    · rintro (⟨table, found, admits⟩ | hidden)
      · simp only [found, if_pos ((within_allows).mpr admits)]
      · exact hidden.elim
    · intro unsuited
      cases found : base.table? (.object address) with
      | none => rfl
      | some table =>
        exact if_neg fun fits => unsuited (.inl ⟨table, found, within_allows.mp fits⟩)

lemma resolve_suits (extended : Extends base store) {supply : Supply ω} (plain : supply.Plain base)
    (entered : Imports.From supply imports) (need : Wasm.Import × Demand) :
    (Suits base supply need → ∃ value, resolve store imports need.1 need.2 = .ok value) ∧ (¬ Suits base supply need →
        ∃ raised, resolve store imports need.1 need.2 = .error raised ∧ Refusal raised) := by
  have stands := entered need.1
  cases found : supply.entity? need.1 with
  | none =>
    rw [found] at stands
    refine ⟨?_, fun _ => missing_refused store need.2 stands⟩
    rintro ⟨entity, present, -⟩
    rw [found] at present
    cases present
  | some entity =>
    rw [found] at stands
    have only : Suits base supply need ↔ entity.Meets base need.2 ∨ entity.Disguised base need.2 := by
      simp [Suits, found]
    rw [only]
    have shape := entity_plain plain found
    cases entity with
    | host signature run =>
      obtain ⟨id, held⟩ := stands
      rw [resolve_function store need.2 held]
      by_cases asked : need.2 = .func
      · rw [if_pos asked, asked]
        exact ⟨fun _ => ⟨_, rfl⟩, fun unsuited => absurd (.inl trivial) unsuited⟩
      · rw [if_neg asked]
        refine ⟨?_, fun _ => ⟨_, rfl, need.1, .inl rfl⟩⟩
        cases kind : need.2 with
        | func => exact absurd kind asked
        | memory limits | table limits | global =>
          rintro (met | hidden)
          · exact met.elim
          · exact hidden.elim
    | value value =>
      obtain ⟨address, slot, body, rfl, inside, shaped⟩ := shape
      obtain ⟨taken, refused⟩ := resolve_object extended need.2 inside shaped stands
      exact ⟨fun suits => ⟨_, taken suits⟩, fun unsuited => ⟨_, refused unsuited, need.1, .inl rfl⟩⟩
    | unsupported type => exact shape.elim

end Link

end WasmLua.Exec
