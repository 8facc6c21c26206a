import WasmLua.Proofs.Link.Imports

/-!
When an instance is refused. Each stage of preparation takes the imports of one kind; the first one
that nothing suitable is supplied for ends preparation with a link error.
-/

namespace WasmLua.Exec

open Wasm (Demand)

variable {ω : Type}

namespace Link

open Execution Store Bytes Target.Program List

def LinkFault (raised : Raised) : Prop := ∃ message, raised = fault message

lemma refusal_fault (raised : Raised) (refused : Refusal raised) : LinkFault raised := by
  obtain ⟨origin, rfl | ⟨kind, rfl⟩⟩ := refused
  all_goals exact ⟨_, rfl⟩

lemma marks_differ (trap link : Bytes) : ofString trapMark ++ trap ≠ ofString linkMark ++ link := by
  intro same
  have sixth := congrArg (fun text : Bytes => text[5]?) same
  have long (mark : String) (eleven : (ofString mark).length = 11) (rest : Bytes) :
      (ofString mark ++ rest)[5]? = (ofString mark)[5]? :=
    getElem?_append_left (by omega)
  rw [long trapMark (by decide +kernel), long linkMark (by decide +kernel)] at sixth
  exact absurd sixth (by decide +kernel)

lemma fault_failure (message : Bytes) : Failure.ofRaised (fault message) = .link message := by
  have trap : Failure.afterMark? trapMark (ofString linkMark ++ message) = none := by
    refine if_neg fun marked => ?_
    obtain ⟨rest, same⟩ := isPrefixOf_iff_prefix.mp marked
    exact marks_differ rest message same
  have link : Failure.afterMark? linkMark (ofString linkMark ++ message) = some message := by
    rw [Failure.afterMark?, if_pos (List.isPrefixOf_iff_prefix.mpr ⟨message, rfl⟩), drop_left]
  simp only [Failure.ofRaised, fault, Failure.ofText, trap, link]

lemma refusal_head {message : Bytes} (refused : Refusal (fault message)) :
    message.head? = some 105 ∨ message.head? = some 117 := by
  have inner (text : Bytes) (same : fault message = fault text) : message = text := by
    simpa [fault] using same
  obtain ⟨origin, same | ⟨kind, same⟩⟩ := refused
  · rw [inner _ same, head?_append]
    exact .inl (by rw [show (ofString "incompatible import type ").head? = some 105 by decide +kernel]; rfl)
  · rw [inner _ same, head?_append, ofString_append, ofString_append, head?_append, head?_append]
    exact .inr (by rw [show (ofString "unknown import (").head? = some 117 by decide +kernel]; rfl)

lemma oversized_taken (raised : Raised) (oversized : Oversized raised) : ¬ Refusal raised := by
  intro refused
  rcases oversized with rfl | rfl
  all_goals exact absurd (refusal_head refused) (by decide +kernel)

lemma fault_taken (fault : Fault) : ¬ Refusal fault.raised := by
  intro refused
  obtain ⟨message, same⟩ := refusal_fault _ refused
  cases fault with
  | operand | negation | place => cases same
  | trap kind =>
    have texts : ofString trapMark ++ ofString kind.text = ofString linkMark ++ message := by
      rw [← ofString_append]
      exact Raised.text.inj same
    exact marks_differ _ _ texts

variable {program : Target.Program} {need : Wasm.Import × Demand}

section Stages

open Target (Assignment)

variable {base : Store ω} {supply : Supply ω} {imports : Imports} (plain : supply.Plain base) (entered : Imports.From supply imports)

include plain entered

lemma resolution_leads {fails : Raised → Store ω → Prop} (need : Wasm.Import × Demand)
    (taken : Suits base supply need ∨ ∀ raised store, Refusal raised → fails raised store) :
    Leads (Extends base) (fun _ => Extends base) fails (resolution imports need) := by
  intro store extended
  obtain ⟨accepts, refuses⟩ := resolve_suits extended plain entered need
  by_cases suits : Suits base supply need
  · obtain ⟨value, found⟩ := accepts suits
    simp only [resolution, found]
    exact extended
  · obtain ⟨raised, found, refused⟩ := refuses suits
    simp only [resolution, found]
    exact taken.resolve_left suits raised store refused

lemma resolution_stops (unsuited : ¬ Suits base supply need) :
    Leads (Extends base) (fun _ _ => False) (fun raised _ => LinkFault raised) (resolution imports need) := by
  intro store extended
  obtain ⟨raised, found, refused⟩ := (resolve_suits extended plain entered need).2 unsuited
  rw [resolution, found]
  exact refusal_fault raised refused

omit plain entered in
lemma supply_resolves (program : Target.Program) (id : Nat) (owner : Instance) {assignment : Assignment}
    (asked : assignment.demand? = some need) :
    Link.supply program imports id owner assignment = (resolution imports need : Execution ω Value) := by
  cases assignment with
  | function index origin =>
    cases asked
    rfl
  | ref init => cases asked
  | memory index provision | table index provision =>
    cases provision <;> cases asked
    rfl
  | global index init =>
    cases init <;> cases asked
    rfl

omit plain entered in
lemma asked_early (asked : need ∈ program.demands) (ordered : need.2 = .global → ∃ front back, program.globals = front ++ back ∧
      (∀ init ∈ front, init.origin?.isSome) ∧ ∀ init ∈ back, init.origin? = none) :
    ∃ lead trail bad, program.assignments = lead ++ trail ∧ bad ∈ lead ∧ bad.demand? = some need ∧
      ∀ index init, .global index (.created init) ∉ lead := by
  -- Only imported globals stand before the import that is asked for, so no initialiser runs first.
  rw [program.demands_assigned] at asked
  obtain ⟨bad, listed, known⟩ := mem_filterMap.mp asked
  have others (index : Nat) (init : Target.Constant) : .global index (.created init) ∉
      program.functionSteps ++ program.memorySteps ++ program.tableSteps ++ program.refSteps := by
    simp [functionSteps, memorySteps, tableSteps, refSteps, mem_mapIdx]
  simp only [assignments, globalSteps] at listed ⊢
  by_cases global : need.2 = .global
  · obtain ⟨front, back, order, imported, defined⟩ := ordered global
    rw [order, mapIdx_append, ← append_assoc] at listed ⊢
    refine ⟨_, _, bad, rfl, (mem_append.mp listed).resolve_right fun late => ?_, known, ?_⟩
    · obtain ⟨place, bound, rfl⟩ := mem_mapIdx.mp late
      simp [Assignment.demand?, defined _ (getElem_mem bound)] at known
    · intro index init created
      obtain ⟨place, bound, same⟩ := mem_mapIdx.mp ((mem_append.mp created).resolve_left (others index init))
      have some := imported _ (getElem_mem bound)
      simp [(Assignment.global.inj same).2, Target.GlobalInit.origin?] at some
  · refine ⟨_, _, bad, rfl, (mem_append.mp listed).resolve_right fun late => ?_, known, others⟩
    obtain ⟨place, bound, rfl⟩ := mem_mapIdx.mp late
    obtain ⟨origin, -, rfl⟩ := Option.map_eq_some_iff.mp known
    exact global rfl

lemma prepare_stops (program : Target.Program) (id : Nat) (asked : need ∈ program.demands) (unsuited : ¬ Suits base supply need)
    (ordered : need.2 = .global → ∃ front back, program.globals = front ++ back ∧
      (∀ init ∈ front, init.origin?.isSome) ∧ ∀ init ∈ back, init.origin? = none) :
    Leads (Extends base) (fun _ _ => False) (fun raised _ => LinkFault raised) (prepare program imports id) := by
  have own (raised : Raised) (oversized : Oversized raised) : LinkFault raised := by
    rcases oversized with rfl | rfl
    all_goals exact ⟨_, rfl⟩
  obtain ⟨lead, trail, bad, split, member, known, uncreated⟩ := asked_early asked ordered
  rw [prepare_assigns, split, foldlM_append, bind_assoc]
  refine leads_stopped (leads_fold_stopped (fun _ => Extends base) _ member ?_ ?_)
  -- The assignments before the one that resolves the import pass or raise a link error themselves.
  · intro owner assignment inside
    refine assign_leads (fun need _ => resolution_leads plain entered need (.inr fun raised _ refused =>
      refusal_fault raised refused)) (fun raised oversized _ _ => own raised oversized) ?_
    rintro index init rfl
    exact absurd inside (uncreated index init)
  · intro owner
    unfold assign
    rw [supply_resolves program id owner known]
    exact leads_stopped (resolution_stops plain entered unsuited)

end Stages

lemma load_source {name : Bytes} {depth : Nat} {loaded : Loaded} (accepted : Loaded.load name program depth = .ok loaded) :
    loaded.depth = depth ∧ loaded.source = .program program (.ofProgram program) := by
  unfold Loaded.load at accepted
  split at accepted
  · cases accepted
  · obtain ⟨imports, -, rest⟩ := Compile.bind_ok accepted
    obtain ⟨exports, -, last⟩ := Compile.bind_ok rest
    cases last
    exact ⟨rfl, rfl⟩

lemma program_ordered {module : Wasm.Module}
    (origins : program.globals.map Target.GlobalInit.origin? = module.globals.map (·.origin)) (ordered : module.GlobalsOrdered) :
    ∃ front back, program.globals = front ++ back ∧ (∀ init ∈ front, init.origin?.isSome) ∧
      ∀ init ∈ back, init.origin? = none := by
  obtain ⟨early, late, split, imported, defined⟩ := ordered
  rw [split, map_append] at origins
  obtain ⟨front, back, same, fronts, backs⟩ := map_eq_append_iff.mp origins
  refine ⟨front, back, same, ?_, ?_⟩
  · intro init member
    have held : init.origin? ∈ early.map (·.origin) := fronts ▸ mem_map_of_mem member
    obtain ⟨global, inside, known⟩ := mem_map.mp held
    exact known ▸ imported global inside
  · intro init member
    have held : init.origin? ∈ late.map (·.origin) := backs ▸ mem_map_of_mem member
    obtain ⟨global, inside, known⟩ := mem_map.mp held
    exact known ▸ defined global inside

/-- An instance is refused with a link error when an import is missing, of another kind, or a memory
or table outside the declared limits, and for no other import. A memory or a table suits a global.
-/
theorem unsuited_imports_refused (module : Wasm.Module) (options : Option Compile.Options)
    (program : Target.Program) (name : Bytes) (depth : Nat) (loaded : Loaded) (supply : Supply ω)
    (store : Store ω) (compiled : Compile.compile module options = .ok program)
    (accepted : Loaded.load name program depth = .ok loaded) (plain : supply.Plain store) :
    (∀ need ∈ module.demands, ¬ Suits store supply need → (need.2 = .global → module.GlobalsOrdered) →
      ∃ reason after, loaded.instantiate supply store = .error (.link reason) after) ∧
    ((∀ need ∈ module.demands, Suits store supply need) → ∃ imports entered, supply.enter store = .ok imports entered ∧
        ∀ raised after, prepare program imports entered.instances.size entered = .error raised after →
          ¬ Refusal raised) ∧ ∀ input, Binary.decode input = .ok module → module.GlobalsOrdered := by
  obtain ⟨demands, origins⟩ := Compile.compiled_demands compiled
  obtain ⟨-, source⟩ := load_source accepted
  obtain ⟨imports, hosts, entered, stands⟩ := supply.enter_stands store plain
  have around : supply.Plain { store with hosts := hosts } := plain
  refine ⟨?_, ?_, fun input decoded => (Binary.decoded_kept decoded).2⟩
  · intro need asked unsuited ordered
    have stops := prepare_stops around stands program store.instances.size (demands ▸ asked) unsuited
      (fun global => program_ordered origins (ordered global)) _ (extends_refl _)
    generalize ran : prepare program imports store.instances.size { store with hosts := hosts } = ends at stops
    cases ends with
    | ok => exact stops.elim
    | error raised after =>
    obtain ⟨message, rfl⟩ := stops
    have made : Link.instantiate program (.ofProgram program) loaded.depth imports
        { store with hosts := hosts } = .error (fault message) after :=
      (bind_runs get _ _ _ rfl).trans (bind_fails _ ran)
    refine ⟨message, after, (Supply.bind_entered entered).trans ?_⟩
    rw [source]
    simp only [bind, EStateM.bind, Embedding.run, made, fault_failure]
  · intro suited
    refine ⟨imports, _, entered, ?_⟩
    intro raised after ran
    have passed : Leads _ _ (fun raised _ => ¬ Refusal raised) (prepare program imports store.instances.size) :=
      prepare_leads (fun need asked => resolution_leads around stands need
        (.inl (suited need (demands ▸ asked)))) (fun raised oversized _ _ => oversized_taken raised oversized)
        fun fault _ _ => fault_taken fault
    have taken := passed _ (extends_refl _)
    rwa [ran] at taken

def borrower : Wasm.Module :=
  { Wasm.Module.empty with
    types := [⟨[.i32], []⟩]
    functions := [⟨[], 0, some ⟨[0x65], [0x66]⟩, [], []⟩]
    memories := [⟨some ⟨[0x65], [0x6d]⟩, ⟨2, some 3⟩⟩]
    globals := [⟨some ⟨[0x65], [0x67]⟩, ⟨.i64, true⟩, []⟩] }

def borrowerUnit : Target.Program where
  namePrefix := "w2l"
  functionNames := ["f0"]
  cells := [true]
  name := []
  functionImports := [(0, ⟨[0x65], [0x66]⟩)]
  memories := [.imported ⟨[0x65], [0x6d]⟩ ⟨2, some 3⟩]
  tables := []
  refs := []
  globals := [.imported ⟨[0x65], [0x67]⟩]
  elements := []
  data := []
  functions := []
  exports := []
  start := none
  importList := [⟨[0x65], [0x66], .func, [0x70, 0x69, 0x72], false⟩,
    ⟨[0x65], [0x6d], .memory, [], false⟩, ⟨[0x65], [0x67], .global, [0x49], false⟩]
  exportList := []

def onePage : Store Unit :=
  { Store.empty () with objects := #[⟨.null, .memory (.empty (.ofInt 1) (.ofInt 1))⟩] }

def loan : Supply Unit :=
  [([0x65], [([0x66], .host ⟨[.i32], []⟩ fun _ world => (.ok [], world)), ([0x6d], .value (.object 0)), ([0x67], .value (.object 0))])]

lemma unit_loaded (program : Target.Program) (fits : program.refusal? = none)
    (imports : ∀ entity ∈ program.importList, Reader.Named entity.kind)
    (exports : ∀ entity ∈ program.exportList, Reader.Named entity.kind) :
    Loaded.load [] program defaultDepth = .ok ⟨program.name, program.importList.map Target.Extern.unmarked,
      program.exportList, defaultDepth, .program program (.ofProgram program)⟩ := by
  simp only [Loaded.load, fits]
  exact program_loaded program defaultDepth imports exports

theorem small_memory_refused : ∃ loaded, Compile.compile borrower none = .ok borrowerUnit ∧
      Loaded.load [] borrowerUnit defaultDepth = .ok loaded ∧ loan.Plain onePage ∧
      ∃ reason after, loaded.instantiate loan onePage = .error (.link reason) after := by
  have compiled : Compile.compile borrower none = .ok borrowerUnit := rfl
  have accepted := unit_loaded borrowerUnit rfl (by simp [borrowerUnit, Reader.Named])
    (by simp [borrowerUnit])
  have plain : loan.Plain onePage := by
    have memory : (Entity.value (.object 0) : Entity Unit).Plain onePage := ⟨0, _, _, rfl, rfl, by simp⟩
    intro fields member entry inside
    obtain rfl := mem_singleton.mp member
    rcases mem_cons.mp inside with rfl | inside
    · trivial
    rcases mem_cons.mp inside with rfl | inside
    · exact memory
    obtain rfl := mem_singleton.mp inside
    exact memory
  have asked : (⟨[0x65], [0x6d]⟩, .memory ⟨2, some 3⟩) ∈ borrower.demands := by
    simp [Wasm.Module.demands, borrower]
  have small : ¬ Suits onePage loan (⟨[0x65], [0x6d]⟩, .memory ⟨2, some 3⟩) := by
    rintro ⟨entity, found, suits⟩
    cases found
    rcases suits with ⟨memory, held, ample, -⟩ | hidden
    · cases held
      exact absurd ample (by decide)
    · exact hidden.elim
  exact ⟨_, compiled, accepted, plain, (unsuited_imports_refused borrower none borrowerUnit []
    defaultDepth _ loan onePage compiled accepted plain).1 _ asked small fun same => by cases same⟩

theorem memory_taken_as_global : ∃ loaded exports after, Compile.compile counter none = .ok counterUnit ∧
      Loaded.load [] counterUnit defaultDepth = .ok loaded ∧ ¬ (Entity.value (.object 0) : Entity Unit).Meets onePage .global ∧
      loaded.instantiate [([0x65, 0x6e, 0x76], [([0x67], .value (.object 0))])] onePage = .ok exports after := by
  have accepted := unit_loaded counterUnit rfl (by simp [counterUnit, Reader.Named])
    (by simp [counterUnit])
  refine ⟨_, _, _, rfl, accepted, ?_, rfl⟩
  rintro ⟨slot, held⟩
  simp [Store.object?, onePage] at held

end Link

end WasmLua.Exec
