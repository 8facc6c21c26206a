import WasmLua.Proofs.Twin.Calls

namespace WasmLua.Exec

open Value
open Store
open Nat

/-- The addresses of some objects and the numbers of some instances. -/
structure Territory where
  objects : Nat → Prop
  instances : Nat → Prop

section Inside

variable (territory : Territory) (limit : Nat)

def Owner.Inside : Owner → Prop
  | .known id => territory.instances id
  | _ => True

/-- Functions of hand-written descriptions belong to no territory. -/
def Callable.Inside : Callable → Prop
  | .defined owner _ => owner.Inside territory
  | .scripted _ => False
  | _ => True

/-- A value through which nothing outside the territory can be reached, and whose identities are below the limit. -/
def Value.Inside : Value → Prop
  | .pair id low high => id < limit ∧ Value.Inside low ∧ Value.Inside high
  | .ref _ _ _ call => call.Inside territory
  | .function call => call.Inside territory
  | .object address => territory.objects address
  | _ => True

def HostValue.Inside : HostValue → Prop
  | .held value => value.Inside territory limit
  | _ => True

end Inside

variable {territory : Territory} {names : Renaming} {limit larger : Nat}

variable {value : Value}

lemma Value.inside_mono (le : limit ≤ larger) (inside : value.Inside territory limit) :
    value.Inside territory larger := by
  induction value with
  | pair id low high lower upper =>
    exact ⟨lt_of_lt_of_le inside.1 le, lower inside.2.1, upper inside.2.2⟩
  | _ => exact inside

structure Table.Renamed (names : Renaming) (table image : Table) : Prop where
  size : image.size = table.size
  maximum : image.maximum = table.maximum
  elements : ∀ index, image.element index = (table.element index).rename names

lemma Table.element_put {table : Table} {index key : Number} :
    (table.put index value).element key = if index == key then value else table.element key := by
  unfold Table.put
  split
  · rename_i null
    subst null
    exact Std.HashMap.getD_erase
  · exact Std.HashMap.getD_insert

def Table.Shown (territory : Territory) (names : Renaming) (limit : Nat) (table image : Table) : Prop :=
  table.Renamed names image ∧ ∀ index, (table.element index).Inside territory limit

lemma Table.put_shown {table image : Table} (shown : table.Shown territory names limit image)
    (inside : value.Inside territory limit) (index : Number) :
    (table.put index value).Shown territory names limit (image.put index (value.rename names)) := by
  obtain ⟨⟨sizes, maxima, elements⟩, held⟩ := shown
  obtain ⟨size, maximum⟩ := Table.put_measures table index value
  obtain ⟨size', maximum'⟩ := Table.put_measures image index (value.rename names)
  refine ⟨⟨by rw [size, size', sizes], by rw [maximum, maximum', maxima], fun key => ?_⟩, fun key => ?_⟩
  · rw [element_put, element_put, elements]
    split <;> rfl
  · rw [element_put]
    split
    · exact inside
    · exact held key

def Territory.mirror (territory : Territory) (names : Renaming) : Mirror where
  names := names
  inside limit value := value.Inside territory limit
  owns owner := owner.Inside territory
  calls call := call.Inside territory
  tables limit table image := table.Shown territory names limit image
  records := False
  mono le := inside_mono le
  null := trivial
  number := trivial
  helper := trivial
  zero positive := ⟨positive, trivial, trivial⟩
  halves inside := inside.2
  function inside := inside
  ref inside := inside
  fieldless := trivial
  barred := trivial
  unbound := trivial
  defined := Iff.rfl
  larger le shown := ⟨shown.1, fun index => inside_mono le (shown.2 index)⟩
  size shown := shown.1.size
  maximum shown := shown.1.maximum
  element shown index := ⟨shown.2 index, shown.1.elements index⟩
  put := Table.put_shown
  resize shown _ := ⟨⟨rfl, shown.1.maximum, shown.1.elements⟩, shown.2⟩

lemma HostValue.all_inside {value : HostValue} :
    value.All ((territory.mirror names).inside limit) ↔ value.Inside territory limit := by
  cases value <;> exact Iff.rfl

variable {ω : Type}

/-- A function of the embedder that only looks at its arguments, leaves the embedder's state alone and takes
references for what they are: it neither looks at their names nor comes up with others. -/
structure HostAction.Answers (run : HostAction ω)
    (answer : List HostValue → Except HostFailure (List HostValue)) : Prop where
  answers : ∀ args world, run args world = (answer args, world)
  renamed : ∀ (names : Renaming) (args : List HostValue),
    answer (args.map (HostValue.rename names)) = List.map (HostValue.rename names) <$> answer args
  inside : ∀ (territory : Territory) (limit : Nat) (args results : List HostValue),
    (∀ value ∈ args, value.Inside territory limit) → answer args = .ok results →
      ∀ value ∈ results, value.Inside territory limit

def HostAction.Pure (run : HostAction ω) : Prop := ∃ answer, HostAction.Answers run answer

def Instance.fixed (owner : Instance) : Instance := { owner with globals := #[] }

/-- A store that differs from an earlier one inside a territory only, events and the embedder's state apart. -/
structure Store.Spares (territory : Territory) (before after : Store ω) : Prop where
  objects : ∀ address, ¬ territory.objects address → after.objects[address]? = before.objects[address]?
  instances : ∀ id, ¬ territory.instances id → after.instances[id]? = before.instances[id]?
  objectCount : after.objects.size = before.objects.size
  instanceCount : after.instances.size = before.instances.size
  fixed : ∀ id : Nat, (after.instances[id]?).map Instance.fixed = (before.instances[id]?).map Instance.fixed
  hosts : after.hosts = before.hosts
  pairs : before.pairs ≤ after.pairs

/-- The identities of new pairs stay in step: whatever the first run takes next, its image is what the second run takes next. -/
structure Territory.Stores (territory : Territory) (names : Renaming) (base own image : Store ω) : Prop where
  objects : ∀ address, territory.objects address →
    Option.Rel ((territory.mirror names).Objects own.pairs) own.objects[address]? image.objects[address]?
  instances : ∀ id, territory.instances id →
    Option.Rel ((territory.mirror names).Instances own.pairs) own.instances[id]? image.instances[id]?
  hosts : image.hosts = own.hosts
  pure : ∀ host ∈ own.hosts, HostAction.Pure host.run
  positive : 0 < own.pairs
  fresh : ∀ count, names.name (own.pairs + count) = image.pairs + count
  spared : base.Spares territory image

lemma rel_mono {α β : Type} {first second : α → β → Prop}
    (weaker : ∀ value image, first value image → second value image) {value : Option α} {image : Option β}
    (rel : Option.Rel first value image) : Option.Rel second value image := by
  cases rel with
  | some both => exact .some (weaker _ _ both)
  | none => exact .none

namespace Territory

open Mirror Twin Stage Array

variable {base own image : Store ω} {value other : Value}

section Reading

variable (related : territory.Stores names base own image) include related

lemma object_shown (shows : (territory.mirror names).Shows limit value other) :
    Option.Rel ((territory.mirror names).Objects own.pairs) (own.object? value) (image.object? other) := by
  obtain ⟨inside, rfl⟩ := shows
  cases value with
  | object address => exact related.objects address inside
  | _ => exact .none

lemma instance_shown {id : Nat} (member : territory.instances id) :
    (territory.mirror names).Instances own.pairs (own.instances.getD id default) (image.instances.getD id default) := by
  have found := related.instances id member
  rw [getD_eq_getD_getElem?, getD_eq_getD_getElem?]
  generalize own.instances[id]? = left at found
  generalize image.instances[id]? = right at found
  cases found with
  | none => exact default_instances _
  | some instances => exact instances

lemma record_shown (shows : (territory.mirror names).Shows limit value other) :
    own.record? value = none ∧ image.record? other = none := by
  have found := object_shown related shows
  unfold record?
  generalize own.object? value = left at found
  generalize image.object? other = right at found
  cases found with
  | none => exact ⟨rfl, rfl⟩
  | @some object object' objects =>
    obtain ⟨slot, body⟩ := object
    obtain ⟨slot', body'⟩ := object'
    cases objects.body with
    | record never content => exact never.elim
    | _ => exact ⟨rfl, rfl⟩

lemma pair_shown (shows : (territory.mirror names).Shows limit value other) : image.pair? other = own.pair? value := by
  obtain ⟨none, none'⟩ := record_shown related shows
  obtain ⟨inside, rfl⟩ := shows
  have unread (store : Store ω) (value : Value) (missing : store.record? value = .none)
      (plain : ∀ id low high, value ≠ .pair id (.number low) (.number high)) : store.pair? value = .none := by
    unfold pair?
    split
    · exact absurd rfl (plain _ _ _)
    · rw [missing]
      rfl
  by_cases numbers : ∃ id low high, value = .pair id (.number low) (.number high)
  · obtain ⟨id, low, high, rfl⟩ := numbers
    rfl
  · rw [unread own value none fun id low high same => numbers ⟨id, low, high, same⟩]
    refine unread image _ none' fun id low high same => numbers ?_
    cases value with
    | pair id' low' high' =>
      obtain ⟨-, lower, upper⟩ := pair.inj same
      cases low' with
      | number number =>
        cases high' with
        | number number' => exact ⟨_, _, _, rfl⟩
        | _ => cases upper
      | _ => cases lower
    | _ => cases same

end Reading

section Changing

lemma stores_advance (related : territory.Stores names base own image) :
    territory.Stores names base { own with pairs := own.pairs + 1 } { image with pairs := image.pairs + 1 } where
  objects := fun address member =>
    rel_mono (fun _ _ => objects_mono (le_succ _)) (related.objects address member)
  instances := fun id member =>
    rel_mono (fun _ _ => instances_mono (le_succ _)) (related.instances id member)
  hosts := related.hosts
  pure := related.pure
  positive := succ_pos _
  fresh := fun count => by
    have next := related.fresh (1 + count)
    rwa [← add_assoc, ← add_assoc] at next
  spared := { related.spared with pairs := le_succ_of_le related.spared.pairs }

lemma stores_make {made made' : Made} (related : territory.Stores names base own image)
    (makes : (territory.mirror names).Makes own.pairs made made') :
    territory.Stores names base (own.make made).2 (image.make made').2 ∧ own.pairs ≤ (own.make made).2.pairs ∧
      (territory.mirror names).Shows (own.make made).2.pairs (own.make made).1 (image.make made').1 := by
  obtain ⟨inside, rfl⟩ := makes
  cases made with
  | held value => exact ⟨related, le_refl _, inside, rfl⟩
  | fresh low high =>
    refine ⟨stores_advance related, le_succ _, ⟨lt_succ_self _, ?_, ?_⟩, ?_⟩
    · exact inside_mono (le_succ _) inside.1
    · exact inside_mono (le_succ _) inside.2
    · have next := related.fresh 0
      rw [add_zero, add_zero] at next
      simp only [Store.make, Made.rename, rename, mirror, next]

lemma stores_modify (related : territory.Stores names base own image)
    (shows : (territory.mirror names).Shows limit value other) {change change' : Object → Object}
    (changes : ∀ object object', (territory.mirror names).Objects own.pairs object object' →
      (territory.mirror names).Objects own.pairs (change object) (change' object')) :
    territory.Stores names base (own.modifyObject value change) (image.modifyObject other change') ∧
      own.pairs ≤ (own.modifyObject value change).pairs := by
  obtain ⟨inside, rfl⟩ := shows
  cases value with
  | object place =>
    refine ⟨{ related with objects := fun address member => ?_, spared := ?_ }, le_refl _⟩
    · have before := related.objects address member
      simp only [modifyObject, rename, getElem?_modify]
      split
      · generalize own.objects[address]? = left at before
        generalize image.objects[address]? = right at before
        cases before with
        | none => exact .none
        | some objects => exact .some (changes _ _ objects)
      · exact before
    · refine { related.spared with objects := fun address outside => ?_, objectCount := ?_ }
      · have apart : place ≠ address := fun same => outside (same ▸ inside)
        simp only [modifyObject, rename, getElem?_modify, if_neg apart]
        exact related.spared.objects address outside
      · simp only [modifyObject, rename, size_modify]
        exact related.spared.objectCount
  | _ => exact ⟨related, le_refl _⟩

lemma stores_assign {id : Nat} (related : territory.Stores names base own image)
    (inside : territory.instances id) (shows : (territory.mirror names).Shows own.pairs value other)
    (index : Nat) : territory.Stores names base (own.setGlobal id index value) (image.setGlobal id index other) ∧
      own.pairs ≤ (own.setGlobal id index value).pairs := by
  refine ⟨{ related with instances := fun place member => ?_, spared := ?_ }, le_refl _⟩
  · have before := related.instances place member
    simp only [setGlobal, getElem?_modify]
    split
    · generalize own.instances[place]? = left at before
      generalize image.instances[place]? = right at before
      cases before with
      | none => exact .none
      | some instances =>
        refine .some { instances with globals := ?_ }
        simp only [toList_setIfInBounds]
        exact lists_set instances.globals index shows
    · exact before
  · refine { related.spared with
      instances := fun place outside => ?_, instanceCount := ?_, fixed := fun place => ?_ }
    · have apart : id ≠ place := fun same => outside (same ▸ inside)
      simp only [setGlobal, getElem?_modify, if_neg apart]
      exact related.spared.instances place outside
    · simp only [setGlobal, size_modify]
      exact related.spared.instanceCount
    · rw [← related.spared.fixed place]
      simp only [setGlobal, getElem?_modify]
      split
      · cases image.instances[place]? <;> rfl
      · rfl

end Changing

def stage (territory : Territory) (names : Renaming) (base : Store ω) : Stage (territory.mirror names) ω ω where
  related := territory.Stores names base
  count := pairs
  failed _ := territory.Stores names base
  positive related := related.positive
  fails related := related
  object := object_shown
  instances related inside := instance_shown related inside
  pair := pair_shown
  make := stores_make
  alter related shows := stores_modify related shows
  assign := stores_assign

lemma stores_unseen (related : territory.Stores names base own image) {events events' : Array Event}
    {world world' : ω} : territory.Stores names base { own with events := events, world := world }
      { image with events := events', world := world' } :=
  { related with spared := { related.spared with } }

lemma embeds (territory : Territory) (names : Renaming) (base : Store ω) : (territory.stage names base).Embeds := by
  refine ⟨fun {least raise args images} id shows => ?_, False.elim⟩
  refine follows_state fun own image (related : territory.Stores names base own image) enough => ?_
  rw [related.hosts]
  cases found : own.hosts[id]? with
  | none => exact follows_throw
  | some host =>
    obtain ⟨answer, answers, renamed, within⟩ := related.pure host (mem_of_getElem? found)
    have shows := lists_mono enough shows
    refine follows_bind (host_args_follow raise host.label shows) fun count args images _ hosts => ?_
    refine follows_bind (follows_modify fun own image related _ => ⟨?_, le_refl _⟩) ?_
    · exact stores_unseen related
    intro count' _ _ le _
    refine follows_state fun own image related enough => ?_
    rw [answers, answers]
    refine follows_bind (follows_modify fun own image related _ => ⟨?_, le_refl _⟩) ?_
    · exact stores_unseen related
    intro later _ _ more _
    have hosts := host_lists_mono (le_trans (le_trans le enough) more) hosts
    obtain ⟨inside, rfl⟩ := hosts
    rw [renamed]
    cases outcome : answer args with
    | ok results =>
      have inside := fun value member => HostValue.all_inside.mp (inside value member)
      refine host_results_follow raise host.label ⟨fun value member => ?_, rfl⟩
      exact HostValue.all_inside.mpr (within _ _ _ _ inside outcome value member)
    | error failure => exact follows_throw

end Territory

end WasmLua.Exec
