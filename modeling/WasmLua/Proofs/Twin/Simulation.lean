import WasmLua.Exec.Link
import WasmLua.Proofs.Twin.Images

namespace WasmLua.Exec

/-- States side by side, and what a failure leaves of them. The number of identities in use only grows. -/
structure Twin (ε σ τ : Type) where
  related : σ → τ → Prop
  count : σ → Nat
  failed : ε → σ → τ → Prop
  positive : ∀ {own image}, related own image → 0 < count own
  fails : ∀ {raised own image}, related own image → failed raised own image

abbrev Same {α : Type} : Nat → α → α → Prop := fun _ value image => image = value

abbrev Nothing : Nat → Unit → Unit → Prop := fun _ _ _ => True

namespace Twin

variable {ε σ τ α β γ δ : Type} (twin : Twin ε σ τ)

/-- Two ends of a run that used `least` identities before: the same failure, or results that belong together. -/
inductive Ends (post : Nat → α → β → Prop) (least : Nat) :
    EStateM.Result ε σ α → EStateM.Result ε τ β → Prop where
  | ok {value : α} {image : β} {own : σ} {other : τ} (more : least ≤ twin.count own)
      (related : twin.related own other) (both : post (twin.count own) value image) :
      Ends post least (.ok value own) (.ok image other)
  | error {raised : ε} {own : σ} {other : τ} (more : least ≤ twin.count own)
      (failed : twin.failed raised own other) : Ends post least (.error raised own) (.error raised other)

/-- From corresponding states on, two actions end alike. What their results have to do with each other may
depend on the number of identities in use, which is at least `least`. -/
def Follows (least : Nat) (post : Nat → α → β → Prop) (action : EStateM ε σ α) (other : EStateM ε τ β) : Prop :=
  ∀ own image, twin.related own image → least ≤ twin.count own → twin.Ends post (twin.count own) (action own) (other image)

variable {twin} {least : Nat} {first : Nat → α → β → Prop} {second : Nat → γ → δ → Prop}

lemma follows_pure (both : ∀ count, least ≤ count → first count value image) :
    twin.Follows least first (pure value : EStateM ε σ α) (pure image) :=
  fun _ _ related enough => .ok (Nat.le_refl _) related (both _ enough)

variable {raised : ε}

lemma follows_throw : twin.Follows least first (throw raised : EStateM ε σ α) (throw raised) :=
  fun _ _ related _ => .error (Nat.le_refl _) (twin.fails related)

variable {next : α → EStateM ε σ γ}

variable {next' : β → EStateM ε τ δ}

lemma follows_raise : twin.Follows least second (throw raised >>= next) (throw raised >>= next') :=
  fun _ _ related _ => .error (Nat.le_refl _) (twin.fails related)

lemma ends_weaken (le : fewer ≤ least) (ends : twin.Ends first least left right) : twin.Ends first fewer left right := by
  cases ends with
  | ok more related both => exact .ok (Nat.le_trans le more) related both
  | error more failed => exact .error (Nat.le_trans le more) failed

variable {action : EStateM ε σ α} {other : EStateM ε τ β}

lemma follows_bind (follows : twin.Follows least first action other)
    (rest : ∀ count value image, least ≤ count → first count value image → twin.Follows count second (next value) (next' image)) :
    twin.Follows least second (action >>= next) (other >>= next') := by
  intro own image related enough
  have ends := follows own image related enough
  simp only [bind, EStateM.bind]
  generalize action own = left at ends
  generalize other image = right at ends
  cases ends with
  | ok more related both =>
    have later := rest _ _ _ (Nat.le_trans enough more) both _ _ related (Nat.le_refl _)
    exact ends_weaken more later
  | error more failed => exact .error more failed

lemma follows_same {other : EStateM ε τ α}
    {next' : α → EStateM ε τ δ} (follows : twin.Follows least Same action other)
    (rest : ∀ count value, least ≤ count → twin.Follows count second (next value) (next' value)) :
    twin.Follows least second (action >>= next) (other >>= next') :=
  follows_bind follows fun count value _ le same => same ▸ rest count value le

lemma follows_counted
    (rest : ∀ count, least ≤ count → 0 < count → twin.Follows count first action other) : twin.Follows least first action other :=
  fun own image related enough =>
    rest _ enough (twin.positive related) own image related (Nat.le_refl _)

lemma follows_map (follows : twin.Follows least first action other)
    (maps : ∀ count value image, first count value image → second count (f value) (g image)) :
    twin.Follows least second (f <$> action) (g <$> other) := by
  intro own image related enough
  have ends := follows own image related enough
  simp only [Functor.map, EStateM.map]
  generalize action own = left at ends
  generalize other image = right at ends
  cases ends with
  | ok more related both => exact .ok more related (maps _ _ _ both)
  | error more failed => exact .error more failed

lemma follows_ite {c : Prop} [Decidable c]
    (holds : twin.Follows least first yes yes') (fails : twin.Follows least first no no') :
    twin.Follows least first (if c then yes else no) (if c then yes' else no') := by
  split
  · exact holds
  · exact fails

lemma follows_state {next : σ → EStateM ε σ γ} {next' : τ → EStateM ε τ δ}
    (rest : ∀ own image, twin.related own image → least ≤ twin.count own →
      twin.Follows (twin.count own) second (next own) (next' image)) : twin.Follows least second (get >>= next) (get >>= next') :=
  fun own image related enough => rest own image related enough own image related (Nat.le_refl _)

lemma follows_modify_get (keeps : ∀ own image, twin.related own image → least ≤ twin.count own →
      twin.related (change own).2 (change' image).2 ∧ twin.count own ≤ twin.count (change own).2 ∧
        first (twin.count (change own).2) (change own).1 (change' image).1) :
    twin.Follows least first (modifyGet change : EStateM ε σ α) (modifyGet change') := by
  intro own image related enough
  obtain ⟨after, more, both⟩ := keeps own image related enough
  exact .ok more after both

lemma follows_modify (keeps : ∀ own image, twin.related own image → least ≤ twin.count own →
      twin.related (change own) (change' image) ∧ twin.count own ≤ twin.count (change own)) :
    twin.Follows least Nothing (modify change : EStateM ε σ PUnit) (modify change') := by
  refine follows_modify_get fun own image related enough => ?_
  obtain ⟨after, more⟩ := keeps own image related enough
  exact ⟨after, more, trivial⟩

lemma follows_weaken (le : least ≤ more)
    (follows : twin.Follows least first action other) : twin.Follows more first action other :=
  fun own image related enough => follows own image related (Nat.le_trans le enough)

lemma follows_each {ι : Type} {lists : Nat → List α → List β → Prop} (nil : ∀ count, lists count [] [])
    (cons : ∀ count later value image values images, count ≤ later → first count value image →
      lists later values images → lists later (value :: values) (image :: images))
    (mono : ∀ count later values images, count ≤ later → lists count values images →
      lists later values images) {items : List ι} {action : ι → EStateM ε σ α} {other : ι → EStateM ε τ β}
    (each : ∀ item ∈ items, twin.Follows least first (action item) (other item)) :
    twin.Follows least lists (items.mapM action) (items.mapM other) := by
  induction items generalizing least with
  | nil => exact follows_pure fun count _ => nil count
  | cons item items ih =>
    obtain ⟨here, later⟩ := List.forall_mem_cons.mp each
    rw [List.mapM_cons, List.mapM_cons]
    refine follows_bind here fun count value image le both => ?_
    refine follows_bind (ih fun item member => follows_weaken le (later item member)) ?_
    intro count' values images le' rest
    exact follows_pure fun final le'' =>
      cons _ _ _ _ _ _ (Nat.le_trans le' le'') both (mono _ _ _ _ le'' rest)

end Twin

namespace Mirror

variable (mirror : Mirror) (limit : Nat)

inductive Bodies : Body → Body → Prop where
  | cell : Bodies .cell .cell
  | memory (content : Memory) : Bodies (.memory content) (.memory content)
  | table {table image : Table} (tables : mirror.tables limit table image) :
      Bodies (.table table) (.table image)
  | record (allowed : mirror.records) (content : Record) : Bodies (.record content) (.record content)

structure Objects (object image : Object) : Prop where
  value : mirror.Shows limit object.value image.value
  body : mirror.Bodies limit object.body image.body

structure Instances (own image : Instance) : Prop where
  functions : mirror.Lists limit own.functions.toList image.functions.toList
  refs : mirror.Lists limit own.refs.toList image.refs.toList
  memories : mirror.Lists limit own.memories.toList image.memories.toList
  tables : mirror.Lists limit own.tables.toList image.tables.toList
  globals : mirror.Lists limit own.globals.toList image.globals.toList

structure Frames (own image : Frame) : Prop where
  locals : mirror.Lists limit own.locals.toList image.locals.toList
  slots : mirror.Lists limit own.slots.toList image.slots.toList

variable {mirror} {limit} {larger : Nat}

lemma objects_mono (le : limit ≤ larger)
    (objects : mirror.Objects limit object image) : mirror.Objects larger object image := by
  obtain ⟨slot, body⟩ := object
  obtain ⟨slot', body'⟩ := image
  refine ⟨shows_mono le objects.value, ?_⟩
  cases objects.body with
  | cell => exact .cell
  | memory content => exact .memory content
  | table tables => exact .table (mirror.larger le tables)
  | record allowed content => exact .record allowed content

lemma instances_mono (le : limit ≤ larger)
    (instances : mirror.Instances limit own image) : mirror.Instances larger own image where
  functions := lists_mono le instances.functions
  refs := lists_mono le instances.refs
  memories := lists_mono le instances.memories
  tables := lists_mono le instances.tables
  globals := lists_mono le instances.globals

lemma frames_mono (le : limit ≤ larger)
    (frames : mirror.Frames limit own image) : mirror.Frames larger own image :=
  ⟨lists_mono le frames.locals, lists_mono le frames.slots⟩

end Mirror

def Store.setGlobal {ω : Type} (store : Store ω) (id index : Nat) (value : Value) : Store ω :=
  { store with
    instances := store.instances.modify id fun owner =>
      { owner with globals := owner.globals.setIfInBounds index value } }

/-- Two stores side by side: what is read from them belongs together, and they stay so under the changes that code makes. -/
structure Stage (mirror : Mirror) (ω ω' : Type) extends Twin Raised (Store ω) (Store ω') where
  object : ∀ {own image limit value other}, related own image → mirror.Shows limit value other →
    Option.Rel (mirror.Objects (count own)) (own.object? value) (image.object? other)
  instances : ∀ {own image id}, related own image → mirror.owns (.known id) →
    mirror.Instances (count own) (own.instances.getD id default) (image.instances.getD id default)
  pair : ∀ {own image limit value other}, related own image → mirror.Shows limit value other →
    image.pair? other = own.pair? value
  make : ∀ {own image made other}, related own image → mirror.Makes (count own) made other →
    related (own.make made).2 (image.make other).2 ∧ count own ≤ count (own.make made).2 ∧
      mirror.Shows (count (own.make made).2) (own.make made).1 (image.make other).1
  alter : ∀ {own image limit value other} {change change' : Object → Object}, related own image →
    mirror.Shows limit value other →
    (∀ object object', mirror.Objects (count own) object object' → mirror.Objects (count own) (change object) (change' object')) →
    related (own.modifyObject value change) (image.modifyObject other change') ∧
      count own ≤ count (own.modifyObject value change)
  assign : ∀ {own image id value other}, related own image → mirror.owns (.known id) →
    mirror.Shows (count own) value other → ∀ index,
    related (own.setGlobal id index value) (image.setGlobal id index other) ∧
      count own ≤ count (own.setGlobal id index value)

namespace Stage

open Mirror Twin Execution

variable {ω ω' α β : Type} {mirror : Mirror} {stage : Stage mirror ω ω'} {least : Nat}

lemma make_follows (makes : mirror.Makes least made image) :
    stage.Follows least mirror.Shows (Execution.make made) (Execution.make image) :=
  follows_modify_get fun _ _ related enough => stage.make related (makes_mono enough makes)

lemma except_follows {x : Except Fault α} {y : Except Fault β} {post : Nat → α → β → Prop}
    (matched : ∀ count, least ≤ count → Matched (post count) x y) : stage.Follows least post (ofExcept x) (ofExcept y) := by
  intro own image related enough
  have both := matched _ enough
  cases both with
  | ok both => exact .ok (Nat.le_refl _) related both
  | error fault => exact .error (Nat.le_refl _) (stage.fails related)

lemma value_follows {x y : Except Fault Value} (matched : Matched (mirror.Shows least) x y) :
    stage.Follows least mirror.Shows (ofExcept x) (ofExcept y) :=
  except_follows fun _ le => matched_weaken (fun _ _ => shows_mono le) matched

lemma made_follows {x y : Except Fault Made} (matched : Matched (mirror.Makes least) x y) :
    stage.Follows least mirror.Makes (ofExcept x) (ofExcept y) :=
  except_follows fun _ le => matched_weaken (fun _ _ => makes_mono le) matched

lemma same_follows {result : Except Fault α} : stage.Follows least Same (ofExcept result) (ofExcept result) :=
  except_follows fun _ _ => matched_same result

end Stage

end WasmLua.Exec
