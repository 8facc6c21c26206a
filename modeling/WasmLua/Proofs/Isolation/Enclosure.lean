import WasmLua.Proofs.Isolation.Territory

namespace WasmLua.Exec

variable {ω : Type}

section Held

variable (territory : Territory) (limit : Nat)

/-- Tables of hand-written descriptions belong to no territory. -/
def Body.Inside : Body → Prop
  | .cell => True
  | .memory _ => True
  | .table content => ∀ index, (content.element index).Inside territory limit
  | .record _ => False

def Object.Inside (object : Object) : Prop := object.value.Inside territory limit ∧ object.body.Inside territory limit

structure Instance.Inside (owner : Instance) : Prop where
  functions : ∀ value ∈ owner.functions, value.Inside territory limit
  refs : ∀ value ∈ owner.refs, value.Inside territory limit
  memories : ∀ value ∈ owner.memories, value.Inside territory limit
  tables : ∀ value ∈ owner.tables, value.Inside territory limit
  globals : ∀ value ∈ owner.globals, value.Inside territory limit

/-- What the territory holds stays inside it, and functions of the embedder only look at their arguments. -/
structure Store.Held (store : Store ω) : Prop where
  objects : ∀ (address : Nat) object, territory.objects address → store.objects[address]? = some object →
    object.Inside territory store.pairs
  instances : ∀ (id : Nat) owner, territory.instances id → store.instances[id]? = some owner →
    owner.Inside territory store.pairs
  pure : ∀ host ∈ store.hosts, HostAction.Pure host.run
  positive : 0 < store.pairs

structure Store.Closed (store : Store ω) : Prop extends store.Held territory where
  objectBound : ∀ address, territory.objects address → address < store.objects.size
  instanceBound : ∀ id, territory.instances id → id < store.instances.size

end Held

structure Territory.Apart (territory other : Territory) : Prop where
  objects : ∀ address, territory.objects address → ¬ other.objects address
  instances : ∀ id, territory.instances id → ¬ other.instances id

lemma Territory.apart_symm {territory other : Territory} (apart : territory.Apart other) : other.Apart territory :=
  ⟨fun address inside also => apart.objects address also inside, fun id inside also => apart.instances id also inside⟩

namespace Territory

open Mirror

variable {territory : Territory} {names : Renaming} {limit : Nat} {base store : Store ω}

abbrev still (territory : Territory) : Mirror := territory.mirror .identity

lemma still_lists {values : List Value} (inside : ∀ value ∈ values, value.Inside territory limit) :
    territory.still.Lists limit values values := by
  refine ⟨inside, ?_⟩
  have same : Value.rename territory.still.names = id := funext Value.rename_identity
  rw [same, List.map_id]

lemma still_hosts {values : List HostValue} (inside : ∀ value ∈ values, value.Inside territory limit) :
    territory.still.HostLists limit values values := by
  have same : HostValue.rename territory.still.names = id := funext HostValue.rename_identity
  refine ⟨fun value member => HostValue.all_inside.mpr (inside value member), ?_⟩
  rw [same, List.map_id]

variable {object : Object} {larger : Nat}

lemma still_objects (inside : object.Inside territory limit) : territory.still.Objects limit object object := by
  obtain ⟨slot, body⟩ := object
  refine ⟨⟨inside.1, (Value.rename_identity _).symm⟩, ?_⟩
  cases body with
  | cell => exact .cell
  | memory content => exact .memory content
  | table content => exact .table ⟨⟨rfl, rfl, fun index => (Value.rename_identity _).symm⟩, inside.2⟩
  | record content => exact inside.2.elim

lemma still_arrays {values : Array Value} (inside : ∀ value ∈ values, value.Inside territory limit) :
    territory.still.Lists limit values.toList values.toList :=
  still_lists fun value member => inside value (Array.mem_toList_iff.mp member)

lemma still_instances {owner : Instance} (inside : owner.Inside territory limit) :
    territory.still.Instances limit owner owner where
  functions := still_arrays inside.functions
  refs := still_arrays inside.refs
  memories := still_arrays inside.memories
  tables := still_arrays inside.tables
  globals := still_arrays inside.globals

lemma spares_refl (territory : Territory) (store : Store ω) : store.Spares territory store :=
  ⟨fun _ _ => rfl, fun _ _ => rfl, rfl, rfl, fun _ => rfl, rfl, Nat.le_refl _⟩

lemma held_stores (held : store.Held territory) : territory.Stores .identity store store store where
  objects := fun address member => by
    cases found : store.objects[address]? with
    | none => exact .none
    | some object => exact .some (still_objects (held.objects address object member found))
  instances := fun id member => by
    cases found : store.instances[id]? with
    | none => exact .none
    | some owner => exact .some (still_instances (held.instances id owner member found))
  hosts := rfl
  pure := held.pure
  positive := held.positive
  fresh := fun _ => rfl
  spared := spares_refl territory store

lemma objects_inside {other : Object} (objects : (territory.mirror names).Objects limit object other) :
    object.Inside territory limit := by
  obtain ⟨slot, body⟩ := object
  obtain ⟨slot', body'⟩ := other
  refine ⟨objects.value.1, ?_⟩
  cases objects.body with
  | cell | memory content => trivial
  | table tables => exact tables.2
  | record never content => exact never

lemma instances_inside {owner other : Instance}
    (instances : (territory.mirror names).Instances limit owner other) : owner.Inside territory limit where
  functions := fun value member => instances.functions.1 value (Array.mem_toList_iff.mpr member)
  refs := fun value member => instances.refs.1 value (Array.mem_toList_iff.mpr member)
  memories := fun value member => instances.memories.1 value (Array.mem_toList_iff.mpr member)
  tables := fun value member => instances.tables.1 value (Array.mem_toList_iff.mpr member)
  globals := fun value member => instances.globals.1 value (Array.mem_toList_iff.mpr member)

lemma stores_held {image : Store ω} (related : territory.Stores names base store image) : store.Held territory where
  objects := fun address object member found => by
    have rel := related.objects address member
    rw [found] at rel
    generalize image.objects[address]? = shown at rel
    cases rel with
    | some objects => exact objects_inside objects
  instances := fun id owner member found => by
    have rel := related.instances id member
    rw [found] at rel
    generalize image.instances[id]? = shown at rel
    cases rel with
    | some instances => exact instances_inside instances
  pure := related.pure
  positive := related.positive

section Runs

variable {α : Type} {post : Nat → α → α → Prop} {action : Execution ω α}

lemma run_keeps (held : store.Held territory)
    (follows : (territory.stage .identity store).Follows store.pairs post action action) {value : α}
    {after : Store ω} (ran : action store = .ok value after) :
    after.Held territory ∧ store.Spares territory after ∧ post after.pairs value value := by
  -- A run beside itself shows what a run does to a territory.
  have ends := follows store store (held_stores held) (Nat.le_refl _)
  rw [ran] at ends
  cases ends with
  | ok _ related both => exact ⟨stores_held related, Stores.spared related, both⟩

end Runs

section Other

variable {other : Territory}

lemma instances_larger (le : limit ≤ larger) {owner : Instance} (inside : owner.Inside territory limit) :
    owner.Inside territory larger :=
  instances_inside (instances_mono le (still_instances inside))

lemma held_closed (closed : base.Closed other) (spared : base.Spares territory store)
    (held : store.Held other) : store.Closed other where
  toHeld := held
  objectBound := fun address member => by
    rw [spared.objectCount]
    exact closed.objectBound address member
  instanceBound := fun id member => by
    rw [spared.instanceCount]
    exact closed.instanceBound id member

lemma held_elsewhere (closed : base.Closed other)
    (objects : ∀ address, other.objects address → store.objects[address]? = base.objects[address]?)
    (instances : ∀ id, other.instances id → store.instances[id]? = base.instances[id]?)
    (pure : ∀ host ∈ store.hosts, HostAction.Pure host.run) (pairs : base.pairs ≤ store.pairs) :
    store.Held other where
  objects := fun address object member found =>
    objects_inside (objects_mono pairs (still_objects (closed.objects address object member (objects address member ▸ found))))
  instances := fun id owner member found =>
    instances_larger pairs (closed.instances id owner member (instances id member ▸ found))
  pure := pure
  positive := Nat.lt_of_lt_of_le closed.positive pairs

lemma closed_spared (closed : base.Closed other) (spared : base.Spares territory store)
    (apart : territory.Apart other) : store.Closed other := by
  refine held_closed closed spared (held_elsewhere closed ?_ ?_ ?_ spared.pairs)
  · exact fun address member => spared.objects address fun inside => apart.objects address inside member
  · exact fun id member => spared.instances id fun inside => apart.instances id inside member
  · rw [spared.hosts]
    exact closed.pure

end Other

end Territory

end WasmLua.Exec
