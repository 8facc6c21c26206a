import WasmLua.Proofs.Twin.Calls

namespace WasmLua.Exec

/-- The state of an embedder, and the error that one of its functions has returned. -/
structure Watched (ω : Type) where
  world : ω
  returned : Option HostError

variable {ω : Type}

def HostAction.watched (run : HostAction ω) : HostAction (Watched ω) := fun args state =>
  match run args state.world with
  | (.error (.returned error), world) => (.error (.returned error), ⟨world, some error⟩)
  | (outcome, world) => (outcome, ⟨world, state.returned⟩)

def HostFunction.watched (host : HostFunction ω) : HostFunction (Watched ω) :=
  ⟨host.label, host.signature, HostAction.watched host.run⟩

def Store.watched (store : Store ω) (returned : Option HostError) : Store (Watched ω) where
  objects := store.objects
  instances := store.instances
  hosts := store.hosts.map HostFunction.watched
  scripts := store.scripts
  world := ⟨store.world, returned⟩
  events := store.events
  pairs := store.pairs

namespace Mirror

def same : Mirror where
  names := .identity
  inside _ _ := True
  owns _ := True
  calls _ := True
  tables _ table image := image = table
  records := True
  mono _ _ := trivial
  null := trivial
  number := trivial
  helper := trivial
  zero _ := trivial
  halves _ := ⟨trivial, trivial⟩
  function _ := trivial
  ref _ := trivial
  fieldless := trivial
  barred := trivial
  unbound := trivial
  defined := Iff.rfl
  larger _ same := same
  size same := congrArg Table.size same
  maximum same := congrArg Table.maximum same
  element same index := ⟨trivial, by rw [same, Value.rename_identity]⟩
  put same _ index := by rw [same, Value.rename_identity]
  resize same _ := by rw [same]

variable {limit : Nat} {value image : Value}

lemma same_shows : same.Shows limit value image ↔ image = value := by
  simp [Shows, same, Value.rename_identity]

lemma same_lists {values images : List Value} : same.Lists limit values images ↔ images = values := by
  have kept : Value.rename Renaming.identity = id := funext Value.rename_identity
  simp [Lists, same, kept]

lemma same_hosts {values images : List HostValue} : same.HostLists limit values images ↔ images = values := by
  have all (value : HostValue) : value.All (same.inside limit) := by
    cases value <;> trivial
  have kept : HostValue.rename same.names = id := funext HostValue.rename_identity
  simp [HostLists, all, kept]

lemma same_objects {object image : Object} : same.Objects limit object image ↔ image = object := by
  constructor
  · rintro ⟨values, bodies⟩
    obtain ⟨value, body⟩ := object
    obtain ⟨value', body'⟩ := image
    obtain rfl := same_shows.mp values
    cases bodies with
    | table tables => exact congrArg (Object.mk value' ∘ Body.table) tables
    | _ => rfl
  · rintro rfl
    refine ⟨same_shows.mpr rfl, ?_⟩
    cases image.body with
    | cell => exact .cell
    | memory content => exact .memory content
    | table content => exact .table rfl
    | record content => exact .record trivial content

lemma same_instances {owner : Instance} : same.Instances limit owner owner :=
  ⟨same_lists.mpr rfl, same_lists.mpr rfl, same_lists.mpr rfl, same_lists.mpr rfl, same_lists.mpr rfl⟩

end Mirror

namespace Watched

open Mirror Twin Stage

variable {own : Store ω} {value other : Value}

def stage : Stage Mirror.same ω (Watched ω) where
  related own image := image = own.watched none
  count _ := 1
  failed raised own image := ∃ returned, image = own.watched returned ∧ ∀ error ∈ returned, raised = HostError.raised error
  positive _ := Nat.one_pos
  fails same := ⟨none, same, nofun⟩
  object := by
    rintro own _ limit value other rfl shows
    obtain rfl := same_shows.mp shows
    change Option.Rel _ (own.object? other) (own.object? other)
    cases own.object? other with
    | none => exact .none
    | some object => exact .some (same_objects.mpr rfl)
  instances := by
    rintro own _ id rfl -
    exact same_instances
  pair := by
    rintro own _ limit value other rfl shows
    obtain rfl := same_shows.mp shows
    rfl
  make := by
    rintro own _ made other rfl ⟨-, rfl⟩
    cases made with
    | held value => exact ⟨rfl, Nat.le_refl _, trivial, rfl⟩
    | fresh low high =>
      refine ⟨rfl, Nat.le_refl _, same_shows.mpr ?_⟩
      simp only [Made.rename, Store.make, Mirror.same, Value.rename_identity]
      rfl
  alter := by
    rintro own _ limit value other change change' rfl shows changes
    obtain rfl := same_shows.mp shows
    obtain rfl : change' = change := funext fun object =>
      same_objects.mp (changes object object (same_objects.mpr rfl))
    refine ⟨?_, Nat.le_refl _⟩
    cases other <;> rfl
  assign := by
    rintro own _ id value other rfl - shows index
    obtain rfl := same_shows.mp shows
    exact ⟨rfl, Nat.le_refl _⟩

end Watched

end WasmLua.Exec
