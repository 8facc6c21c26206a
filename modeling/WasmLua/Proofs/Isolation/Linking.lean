import WasmLua.Proofs.Isolation.Enclosure
import WasmLua.Proofs.Twin.Segments

namespace WasmLua.Exec

open Nat
open List
open Link
variable {ω : Type}

variable {value : Value} {before : Store ω → Prop} {after store base : Store ω} {limit least : Nat}
  {limits : Wasm.Limits} {values : Array Value} {program : Target.Program} {code : Code} {supply : Supply ω} {exports : Exports}

section Growth

structure Territory.Within (territory larger : Territory) : Prop where
  objects : ∀ address, territory.objects address → larger.objects address
  instances : ∀ id, territory.instances id → larger.instances id

variable {territory larger : Territory} {limit limit' : Nat} (within : territory.Within larger) (le : limit ≤ limit') include within

lemma Callable.inside_grown {call : Callable} (inside : call.Inside territory) : call.Inside larger := by
  cases call with
  | defined owner index =>
    cases owner with
    | known id => exact within.instances id inside
    | _ => trivial
  | scripted id => exact inside.elim
  | _ => trivial

include le

lemma Value.inside_grown (inside : value.Inside territory limit) : value.Inside larger limit' := by
  induction value with
  | pair id low high lower upper =>
    exact ⟨lt_of_lt_of_le inside.1 le, lower inside.2.1, upper inside.2.2⟩
  | ref owner function key call | function call => exact Callable.inside_grown within inside
  | object address => exact within.objects address inside
  | _ => trivial

lemma Object.inside_grown {object : Object} (inside : object.Inside territory limit) : object.Inside larger limit' := by
  obtain ⟨slot, body⟩ := object
  refine ⟨Value.inside_grown within le inside.1, ?_⟩
  cases body with
  | table content => exact fun index => Value.inside_grown within le (inside.2 index)
  | record content => exact inside.2.elim
  | _ => trivial

lemma Instance.inside_grown {owner : Instance} (inside : owner.Inside territory limit) : owner.Inside larger limit' where
  functions := fun value member => Value.inside_grown within le (inside.functions value member)
  refs := fun value member => Value.inside_grown within le (inside.refs value member)
  memories := fun value member => Value.inside_grown within le (inside.memories value member)
  tables := fun value member => Value.inside_grown within le (inside.tables value member)
  globals := fun value member => Value.inside_grown within le (inside.globals value member)

end Growth

/-- The territory together with what was made since: objects, and the instance in the making. -/
def Territory.grown (territory : Territory) (before after : Store ω) : Territory where
  objects address := territory.objects address ∨ before.objects.size ≤ address ∧ address < after.objects.size
  instances id := territory.instances id ∨ id = before.instances.size

structure Linked (territory : Territory) (before : Store ω) (owner : Instance) (store : Store ω) : Prop where
  held : store.Held (territory.grown before store)
  owner : owner.Inside (territory.grown before store) store.pairs
  count : before.objects.size ≤ store.objects.size
  pairs : before.pairs ≤ store.pairs

def Linkable (territory : Territory) (before : Store ω) (owner : Instance) (value : Value) (store : Store ω) : Prop :=
  Linked territory before owner store ∧ value.Inside (territory.grown before store) store.pairs

/-- What is said of a run here is said of the runs that succeed. -/
def Delivers {ε α : Type} (before : Store ω → Prop) (after : α → Store ω → Prop)
    (action : EStateM ε (Store ω) α) : Prop := Leads before after (fun _ _ => True) action

lemma delivers_map {ε α β : Type} {invariant : Store ω → Prop} (holds : α → Prop) (items : List β)
    {action : β → EStateM ε (Store ω) α} (each : ∀ item ∈ items,
      Delivers invariant (fun value store => holds value ∧ invariant store) (action item)) :
    Delivers invariant (fun values store => (∀ value ∈ values, holds value) ∧ invariant store) (items.mapM action) := by
  induction items with
  | nil => exact fun _ kept => ⟨forall_mem_nil _, kept⟩
  | cons first rest ih =>
    obtain ⟨here, later⟩ := forall_mem_cons.mp each
    rw [mapM_cons]
    refine leads_bind here fun value store both => ?_
    refine leads_bind (ih later) (fun values _ all => ?_) store both.2
    exact ⟨forall_mem_cons.mpr ⟨both.1, all.1⟩, all.2⟩

section Stages

open Mirror Stage Territory

variable {territory : Territory} {before : Store ω} {owner : Instance}

lemma grown_within (le : store.objects.size ≤ after.objects.size) :
    (territory.grown before store).Within (territory.grown before after) where
  objects := fun _ member => member.imp_right fun made => ⟨made.1, lt_of_lt_of_le made.2 le⟩
  instances := fun _ member => member

lemma grown_same (territory : Territory) (before : Store ω) (same : after.objects.size = store.objects.size) :
    territory.grown before after = territory.grown before store := by
  simp only [Territory.grown, same]

lemma linked_run {α : Type} {post : Nat → α → α → Prop} {action : Execution ω α} {value : α}
    (linked : Linked territory before owner store)
    (follows : ((territory.grown before store).stage .identity store).Follows store.pairs post action action)
    (ran : action store = .ok value after) :
    Linked territory before owner after ∧ territory.grown before after = territory.grown before store ∧
      post after.pairs value value := by
  obtain ⟨held, spared, both⟩ := run_keeps linked.held follows ran
  have same := grown_same territory before spared.objectCount
  refine ⟨⟨?_, ?_, ?_, le_trans linked.pairs spared.pairs⟩, same, both⟩
  · rwa [same]
  · rw [same]
    exact instances_larger spared.pairs linked.owner
  · rw [spared.objectCount]
    exact linked.count

lemma allocate_linked {body : Body} {slot : Value} : Delivers (fun store => Linked territory before owner store ∧
        Object.Inside (territory.grown before store) store.pairs ⟨slot, body⟩)
      (Linkable territory before owner) (allocate body slot : Execution ω Value) := by
  rintro store ⟨linked, inside⟩
  have more : store.objects.size ≤ (store.objects.push ⟨slot, body⟩).size := by
    rw [Array.size_push]
    exact le_succ _
  have within : (territory.grown before store).Within
      (territory.grown before { store with objects := store.objects.push ⟨slot, body⟩ }) := grown_within more
  refine ⟨⟨⟨?_, ?_, linked.held.pure, linked.held.positive⟩, ?_, le_trans linked.count more, linked.pairs⟩, ?_⟩
  · intro address object member found
    rw [Array.getElem?_push] at found
    split at found
    · cases found
      exact Object.inside_grown within (le_refl _) inside
    · rename_i other
      refine Object.inside_grown within (le_refl _) (linked.held.objects address object ?_ found)
      refine member.imp_right fun made => ⟨made.1, ?_⟩
      have below := made.2
      rw [Array.size_push] at below
      omega
  · intro id found member here
    exact Instance.inside_grown within (le_refl _) (linked.held.instances id found member here)
  · exact Instance.inside_grown within (le_refl _) linked.owner
  · refine .inr ⟨linked.count, ?_⟩
    rw [Array.size_push]
    exact lt_succ_self _

end Stages

def Imports.Inside (territory : Territory) (limit : Nat) (imports : Imports) : Prop :=
  ∀ fields ∈ imports, ∀ entry ∈ fields.2, entry.2.Inside territory limit

section Supplied

variable {imports : Imports} {origin : Wasm.Import} {value : Value}

lemma supplied_inside {territory : Territory} (inside : imports.Inside territory limit)
    (origin : Wasm.Import) : (supplied imports origin).Inside territory limit := by
  unfold supplied
  cases module : imports.lookup origin.module with
  | none => trivial
  | some fields =>
    simp only [Option.getD_some]
    cases field : fields.lookup origin.field with
    | none => trivial
    | some found =>
      obtain ⟨_, _, rfl, -⟩ := lookup_eq_some_iff.mp module
      obtain ⟨_, _, rfl, -⟩ := lookup_eq_some_iff.mp field
      exact inside _ (mem_append_right _ mem_cons_self) (origin.field, found) (mem_append_right _ mem_cons_self)

lemma taken_as_supplied {kind : Wasm.ExternKind} {check : Value → Except Raised Value}
    (keeps : ∀ supplied value, check supplied = .ok value → value = supplied)
    (found : (find imports kind origin >>= check) = .ok value) : value = supplied imports origin := by
  unfold find at found
  cases supplied : supplied imports origin <;> rw [supplied] at found
  case null => cases found
  all_goals exact keeps _ _ found

lemma resolve_supplied {store : Store ω} {demand : Wasm.Demand}
    (found : resolve store imports origin demand = .ok value) : value = supplied imports origin := by
  cases demand with
  | func =>
    refine taken_as_supplied (fun supplied value taken => ?_) found
    cases supplied <;> cases taken
    rfl
  | global =>
    refine taken_as_supplied (fun supplied value taken => ?_) found
    cases supplied <;> cases taken <;> rfl
  | memory limits | table limits =>
    refine taken_as_supplied (fun supplied value taken => ?_) found
    split at taken
    · split at taken <;> cases taken
      rfl
    · cases taken

end Supplied

section Preparing

open Mirror Stage Territory

variable {territory : Territory} {before : Store ω} {owner : Instance} {imports : Imports}

lemma grown_old (territory : Territory) (before store : Store ω) : territory.Within (territory.grown before store) :=
  ⟨fun _ => .inl, fun _ => .inl⟩

lemma resolution_linked (inside : imports.Inside territory before.pairs) (need : Wasm.Import × Wasm.Demand) :
    Delivers (Linked territory before owner) (Linkable territory before owner) (resolution imports need) := by
  intro store linked
  unfold resolution
  cases found : resolve store imports need.1 need.2 with
  | error raised => trivial
  | ok value =>
    refine ⟨linked, ?_⟩
    rw [resolve_supplied found]
    exact Value.inside_grown (grown_old _ _ _) linked.pairs (supplied_inside inside need.1)

lemma empty_element {size maximum index : Number} : (Table.empty size maximum).element index = .null := by
  simp [Table.empty, Table.element]

lemma created_linked {body : Body} (created : Link.Created body) :
    Delivers (Linked territory before owner) (Linkable territory before owner) (allocate body .null : Execution ω Value) := by
  refine fun store linked => allocate_linked store ⟨linked, trivial, ?_⟩
  cases created with
  | memory initial maximum => trivial
  | table initial maximum =>
    intro index
    rw [empty_element]
    trivial

section

variable (inside : ∀ value ∈ values, value.Inside territory limit)

include inside

lemma array_inside (index : Nat) :
    (values.getD index .null).Inside territory limit :=
  (array_getD (still_arrays inside) index).1

lemma put_inside (also : value.Inside territory limit) {index : Nat} :
    ∀ found ∈ values.setIfInBounds index value, found.Inside territory limit := by
  intro found member
  rcases Array.mem_or_eq_of_mem_setIfInBounds member with old | rfl
  · exact inside found old
  · exact also

lemma push_inside (also : value.Inside territory limit) : ∀ found ∈ values.push value, found.Inside territory limit := by
  intro found member
  rcases Array.mem_push.mp member with old | rfl
  · exact inside found old
  · exact also

end

lemma function_inside (inside : owner.Inside (territory.grown before store) limit) (callee : Target.Callee) :
    (functionValue before.instances.size owner callee).Inside (territory.grown before store) limit := by
  cases callee with
  | defined function => exact .inr rfl
  | imported function => exact array_inside inside.functions function
  | element index i key => trivial

lemma ref_inside (inside : owner.Inside (territory.grown before store) limit) (init : Target.RefInit) :
    (refValue before.instances.size owner init).Inside (territory.grown before store) limit := by
  have inside := function_inside inside init.callee
  unfold refValue
  generalize functionValue before.instances.size owner init.callee = value at inside ⊢
  cases value with
  | function call => exact inside
  | _ => trivial

lemma evaluate_linked {names : Target.Names} (constant : Target.Constant) :
    Delivers (Linked territory before owner) (Linkable territory before owner) (evaluate names owner constant) := by
  intro store linked
  cases ran : evaluate names owner constant store with
  | error raised after => trivial
  | ok value after =>
    obtain ⟨done, same, shows⟩ := linked_run linked (evaluate_follows (still_instances linked.owner) names constant) ran
    exact ⟨done, same ▸ shows.1⟩

lemma instance_put (inside : owner.Inside territory limit) (also : value.Inside territory limit)
    (field : Target.Field) : (owner.put value field).Inside territory limit := by
  cases field with
  | function index => exact { inside with functions := put_inside inside.functions also }
  | memory index => exact { inside with memories := push_inside inside.memories also }
  | table index => exact { inside with tables := push_inside inside.tables also }
  | ref index => exact { inside with refs := put_inside inside.refs also }
  | global index => exact { inside with globals := push_inside inside.globals also }

lemma assign_linked (inside : imports.Inside territory before.pairs) (program : Target.Program)
    (owner : Instance) (assignment : Target.Assignment) : Delivers (Linked territory before owner) (Linked territory before)
      (assign program imports before.instances.size owner assignment) := by
  have supplied : Delivers (Linked territory before owner) (Linkable territory before owner)
      (supply program imports before.instances.size owner assignment) := by
    refine supply_leads ⟨fun need _ => resolution_linked inside need, fun _ _ _ _ => trivial,
      fun body created => created_linked created, ?_, fun _ init _ => evaluate_linked init, ?_⟩
    · exact fun init _ store linked => ⟨linked, ref_inside linked.owner init⟩
    · exact fun value store linkable => allocate_linked store ⟨linkable.1, linkable.2, trivial⟩
  refine leads_bind supplied fun value store linkable => ?_
  exact { linkable.1 with owner := instance_put linkable.1.owner linkable.2 assignment.field }

lemma check_linked (program : Target.Program) :
    Delivers (Linked territory before owner) (fun _ => Linked territory before owner) (checkSegments program owner) := by
  intro store linked
  cases ran : checkSegments program owner store with
  | error raised after => trivial
  | ok value after =>
    exact (linked_run linked (check_segments_follow (still_instances linked.owner) program) ran).1

def Exporting (territory : Territory) (before : Store ω) (owner : Instance) (store : Store ω) : Prop :=
  Linked territory before owner store ∧ ∀ entry ∈ owner.exports, entry.2.Inside (territory.grown before store) store.pairs

lemma export_inside (inside : owner.Inside (territory.grown before store) limit) (value : Target.ExportValue) :
    (exportValue before.instances.size owner value).Inside (territory.grown before store) limit := by
  cases value with
  | function callee => exact function_inside inside callee
  | table index => exact array_inside inside.tables _
  | memory index => exact array_inside inside.memories _
  | global index => exact array_inside inside.globals _

lemma set_field_inside {fields : List (Bytes × Value)}
    (inside : ∀ entry ∈ fields, entry.2.Inside territory limit) (name : Bytes) (also : value.Inside territory limit) :
    ∀ entry ∈ setField fields name value, entry.2.Inside territory limit := by
  intro entry member
  unfold setField at member
  split at member
  · exact inside entry (mem_of_mem_filter member)
  · rcases mem_append.mp member with old | new
    · exact inside entry (mem_of_mem_filter old)
    · rw [mem_singleton.mp new]
      exact also

lemma exports_linked (program : Target.Program) (linked : Linked territory before owner store) :
    Exporting territory before (Link.exports program before.instances.size owner) store := by
  refine ⟨{ linked with owner := { linked.owner with } }, ?_⟩
  refine foldlRecOn (motive := fun fields : List (Bytes × Value) =>
    ∀ entry ∈ fields, entry.2.Inside (territory.grown before store) store.pairs) program.exports _ nofun ?_
  exact fun fields kept item _ => set_field_inside kept item.1 (export_inside linked.owner item.2)

lemma start_linked (closed : before.Held territory) (count : Nat) : Linked territory before (.empty count) before where
  held := by
    have within := grown_old territory before before
    refine ⟨fun address object member found => ?_, fun id owner member found => ?_, closed.pure, closed.positive⟩
    · rcases member with old | new
      · exact Object.inside_grown within (le_refl _) (closed.objects address object old found)
      · omega
    · rcases member with old | rfl
      · exact Instance.inside_grown within (le_refl _) (closed.instances id owner old found)
      · rw [Array.getElem?_eq_none (le_refl _)] at found
        cases found
  owner := by
    have nulls {size : Nat} (value : Value) (member : value ∈ Array.replicate size Value.null) :
        value.Inside (territory.grown before before) before.pairs := by
      rw [Array.eq_of_mem_replicate member]
      trivial
    exact ⟨nulls, nulls, nofun, nofun, nofun⟩
  count := le_refl _
  pairs := le_refl _

lemma prepare_linked (inside : imports.Inside territory before.pairs) (program : Target.Program) :
    Delivers (Linked territory before (.empty program.functionNames.length)) (Exporting territory before)
      (prepare program imports before.instances.size) := by
  rw [prepare_assigns]
  refine leads_bind (leads_fold (Linked territory before) _ fun owner assignment _ =>
    assign_linked inside program owner assignment) fun owner => ?_
  exact leads_bind (check_linked program) fun _ _ linked => exports_linked program linked

end Preparing

section Finishing

open Mirror Stage Territory Twin

variable {territory : Territory} {before : Store ω} {owner : Instance} {imports : Imports}

section

variable (program : Target.Program) (code : Code) (depth : Nat)

lemma start_follows (inside : owner.Inside (territory.grown before store) least) :
    ((territory.grown before store).stage .identity base).Follows least Nothing
      (start program code depth before.instances.size owner)
      (start program code depth before.instances.size owner) := by
  unfold start
  cases program.start with
  | none => exact follows_pure fun _ _ => trivial
  | some callee =>
    have reached := function_inside inside callee
    dsimp only
    generalize functionValue before.instances.size owner callee = value at reached ⊢
    cases value with
    | function call =>
      refine follows_bind (call_follows (embeds _ _ _) code depth _ _ _ _ reached lists_nil) fun _ _ _ _ _ => ?_
      exact follows_pure fun _ _ => trivial
    | _ => exact follows_throw

lemma finish_follows (inside : owner.Inside (territory.grown before store) least) :
    ((territory.grown before store).stage .identity base).Follows least (fun _ value _ => value = owner) (do
        writeSegments program owner
        start program code depth before.instances.size owner
        return owner)
      (do
        writeSegments program owner
        start program code depth before.instances.size owner
        return owner) := by
  have instances := still_instances inside
  refine follows_bind (write_segments_follow instances program) fun count _ _ le _ => ?_
  refine follows_bind (start_follows program code depth (instances_larger le inside)) fun _ _ _ _ _ => ?_
  exact follows_pure fun _ _ => rfl

end

lemma pushed_linked (linked : Linked territory before owner store) :
    Linked territory before owner { store with instances := store.instances.push owner } where
  held := by
    refine { linked.held with instances := fun id found member here => ?_ }
    rw [Array.getElem?_push] at here
    split at here
    · cases here
      exact linked.owner
    · exact linked.held.instances id found member here
  owner := linked.owner
  count := linked.count
  pairs := linked.pairs

structure Instantiated (territory : Territory) (before after : Store ω) : Prop where
  closed : after.Closed (territory.grown before after)
  objects : ∀ address, address < before.objects.size → ¬ territory.objects address →
    after.objects[address]? = before.objects[address]?
  instances : ∀ id, id < before.instances.size → ¬ territory.instances id →
    after.instances[id]? = before.instances[id]?
  objectCount : before.objects.size ≤ after.objects.size
  instanceCount : after.instances.size = before.instances.size + 1
  pairs : before.pairs ≤ after.pairs

def Enclosed (territory : Territory) (before : Store ω) (exports : List (Bytes × Value)) (after : Store ω) : Prop :=
  Instantiated territory before after ∧ ∀ entry ∈ exports, entry.2.Inside (territory.grown before after) after.pairs

lemma instantiate_inside {depth : Nat} (closed : before.Closed territory) (inside : imports.Inside territory before.pairs)
    (ran : instantiate program code depth imports before = .ok owner after) :
    Enclosed territory before owner.exports after := by
  obtain ⟨made, store, prepared, rest⟩ := Execution.bind_succeeded (prepare program imports before.instances.size) ran
  obtain ⟨linked, exported⟩ := leads_ok (prepare_linked inside program)
    (start_linked closed.toHeld program.functionNames.length) prepared
  obtain ⟨fresh, pairs, rfl, -⟩ := leads_ok (prepare_extends program imports _ before) (Store.extends_refl before) prepared
  have pushed := pushed_linked linked
  obtain ⟨held, spared, rfl⟩ := run_keeps pushed.held (finish_follows program code depth pushed.owner) rest
  have grown := grown_same territory before spared.objectCount
  have more : before.objects.size ≤ after.objects.size := by
    rw [spared.objectCount]
    exact linked.count
  have count : after.instances.size = before.instances.size + 1 := by
    rw [spared.instanceCount, Array.size_push]
  refine ⟨⟨⟨grown ▸ held, ?_, ?_⟩, ?_, ?_, more, count, le_trans linked.pairs spared.pairs⟩, ?_⟩
  · rintro address (old | new)
    · exact lt_of_lt_of_le (closed.objectBound address old) more
    · exact new.2
  · rintro id (old | rfl)
    · have := closed.instanceBound id old
      omega
    · omega
  · intro address below outside
    rw [spared.objects address fun member => member.elim outside fun new => by omega]
    exact Array.getElem?_append_left below
  · intro id below outside
    rw [spared.instances id fun member => member.elim outside fun new => by omega]
    exact (Array.getElem?_push_lt below).trans (Array.getElem?_eq_getElem below).symm
  · rw [grown]
    exact fun entry member => Value.inside_mono spared.pairs (exported entry member)

end Finishing

section Supplying

variable {territory : Territory} {before : Store ω}

def Entity.Inside (territory : Territory) (limit : Nat) : Entity ω → Prop
  | .host _ run => HostAction.Pure run
  | .value held => held.Inside territory limit
  | .unsupported _ => True

def Supply.Inside (territory : Territory) (limit : Nat) (supply : Supply ω) : Prop :=
  ∀ fields ∈ supply, ∀ entry ∈ fields.2, entry.2.Inside territory limit

def Furnished (before store : Store ω) : Prop :=
  (∃ hosts, store = { before with hosts := hosts }) ∧ ∀ host ∈ store.hosts, HostAction.Pure host.run

lemma entity_inside (module field : Bytes) {entity : Entity ω} (inside : entity.Inside territory limit) :
    Delivers (Furnished before) (fun value store => value.Inside territory limit ∧ Furnished before store)
      (entity.enter module field) := by
  rintro store ⟨⟨hosts, rfl⟩, pure⟩
  cases entity with
  | host signature run =>
    refine ⟨trivial, ⟨_, rfl⟩, fun host member => ?_⟩
    rcases Array.mem_push.mp member with old | rfl
    · exact pure host old
    · exact inside
  | value found => exact ⟨inside, ⟨_, rfl⟩, pure⟩
  | unsupported type => trivial

lemma enter_inside (inside : supply.Inside territory limit) :
    Delivers (Furnished before) (fun imports store => imports.Inside territory limit ∧ Furnished before store) supply.enter := by
  refine delivers_map _ supply fun fields member => ?_
  obtain ⟨module, fields⟩ := fields
  refine leads_bind (delivers_map (fun entry => entry.2.Inside territory limit) fields fun entry also => ?_) fun values => ?_
  · obtain ⟨field, entity⟩ := entry
    exact leads_bind (entity_inside module field (inside _ member _ also)) fun value _ both => both
  · exact fun _ both => both

lemma export_value_inside (inside : ∀ entry ∈ exports.values, entry.2.Inside territory limit)
    (name : Bytes) : (exports.value name).Inside territory limit := by
  unfold Exports.value
  cases found : exports.values.lookup name with
  | none => trivial
  | some value =>
    obtain ⟨_, _, split, -⟩ := lookup_eq_some_iff.mp found
    refine inside (name, value) ?_
    rw [split]
    exact mem_append_right _ mem_cons_self

lemma furnished_closed (closed : before.Closed territory) (furnished : Furnished before store) : store.Closed territory := by
  obtain ⟨⟨hosts, rfl⟩, pure⟩ := furnished
  exact { closed with pure := pure }

lemma link_delivers (program : Target.Program) (code : Code) (depth : Nat) (imports : Imports)
    (closed : before.Closed territory) : Delivers (fun store => imports.Inside territory before.pairs ∧ Furnished before store)
      (fun owner after => Enclosed territory before owner.exports after)
      (Embedding.run (instantiate program code depth imports)) := by
  rintro store ⟨inside, furnished⟩
  have closed := furnished_closed closed furnished
  obtain ⟨⟨hosts, rfl⟩, -⟩ := furnished
  unfold Embedding.run
  cases done : instantiate program code depth imports { before with hosts := hosts } with
  | error raised after => trivial
  | ok owner after =>
    obtain ⟨instantiated, exported⟩ := instantiate_inside closed inside done
    exact ⟨{ instantiated with }, exported⟩

lemma loaded_inside {loaded : Loaded} (source : loaded.source = .program program code)
    (closed : before.Closed territory) (supplied : supply.Inside territory before.pairs)
    (ran : loaded.instantiate supply before = .ok exports after) : Enclosed territory before exports.values after := by
  have delivered : Delivers (Furnished before)
      (fun exports after => Enclosed territory before exports.values after) (loaded.instantiate supply) := by
    unfold Loaded.instantiate
    rw [source]
    refine leads_bind (enter_inside supplied) fun imports => ?_
    refine leads_bind (link_delivers program code loaded.depth imports closed) fun owner => ?_
    rintro store ⟨instantiated, exported⟩
    exact ⟨{ instantiated with closed := { instantiated.closed with } }, exported⟩
  have done := leads_ok delivered ⟨⟨before.hosts, rfl⟩, closed.pure⟩ ran
  exact done

end Supplying

end WasmLua.Exec
