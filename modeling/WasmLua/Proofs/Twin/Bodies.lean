import WasmLua.Proofs.Twin.Helpers

namespace WasmLua.Exec.Stage

open Value
open Mirror Twin Code List

variable {ω ω' α β : Type} {mirror : Mirror} {stage : Stage mirror ω ω'} {least : Nat}

def runs (stage : Stage mirror ω ω') : Twin Raised (Running ω) (Running ω') where
  related own image := stage.related own.store image.store ∧ mirror.Frames (stage.count own.store) own.frame image.frame
  count running := stage.count running.store
  failed raised own image := stage.failed raised own.store image.store
  positive related := stage.positive related.1
  fails related := stage.fails related.1

def Invokes (stage : Stage mirror ω ω') (invoke : Callable → List Value → Execution ω (List Value))
    (invoke' : Callable → List Value → Execution ω' (List Value)) : Prop :=
  ∀ least call args images, mirror.calls call → mirror.Lists least args images →
    stage.Follows least mirror.Lists (invoke call args) (invoke' call images)

variable {code : Code} {owner : Owner} {invoke : Callable → List Value → Execution ω (List Value)}
  {invoke' : Callable → List Value → Execution ω' (List Value)}

lemma context_shares (invokes : stage.Invokes invoke invoke') :
    stage.Shares (Context.mk code invoke owner).shared (Context.mk code invoke' owner).shared where
  negZero := fun limit => by
    unfold Context.shared
    cases code.negZero with
    | some function => exact ⟨mirror.helper, rfl⟩
    | none => exact shows_number
  zero := fun limit positive => by
    unfold Context.shared
    cases code.zero with
    | some function => exact makes_held ⟨mirror.helper, rfl⟩
    | none => exact makes_held (shows_zero_pair positive)
  roundEven := fun least value image shows => by
    unfold Context.shared
    cases code.roundEven with
    | some function =>
      have called := invokes least (.unbound function) [value] [image] mirror.unbound (lists_cons shows lists_nil)
      refine follows_bind called fun count results others _ both => ?_
      exact follows_pure fun _ le => shows_mono le (lists_head both)
    | none =>
      obtain ⟨inside, rfl⟩ := shows
      exact value_follows (uniform_value (fun f _ => Floating.roundEven (f.map ⟨value, inside⟩)) fun f _ => f.round_even _)

variable {post : Nat → α → β → Prop} {limit : Nat} {images args : List Value} {image value : Value} {names : Target.Names}

section Reading

lemma each_follows {ε σ τ ι : Type} {twin : Twin ε σ τ} (items : List ι) {action : ι → EStateM ε σ Value}
    {other : ι → EStateM ε τ Value} (each : ∀ item ∈ items, twin.Follows least mirror.Shows (action item) (other item)) :
    twin.Follows least mirror.Lists (items.mapM action) (items.mapM other) :=
  follows_each (fun _ => lists_nil) (fun _ _ _ _ _ _ le head tail => lists_cons (shows_mono le head) tail)
    (fun _ _ _ _ le => lists_mono le) each

lemma on_store_follows {action : Execution ω α} {other : Execution ω' β} (follows : stage.Follows least post action other) :
    stage.runs.Follows least post (Run.onStore action) (Run.onStore other) := by
  rintro ⟨frame, store⟩ ⟨frame', store'⟩ related enough
  have ends := follows store store' related.1 enough
  simp only [Run.onStore]
  generalize action store = left at ends
  generalize other store' = right at ends
  cases ends with
  | ok more after both => exact .ok more ⟨after, frames_mono more related.2⟩ both
  | error more failed => exact .error more failed

lemma run_except_follows {x : Except Fault α} {y : Except Fault β} (matched : ∀ count, least ≤ count → Matched (post count) x y) :
    stage.runs.Follows least post (Run.ofExcept x : Run ω α) (Run.ofExcept y) := by
  intro own image related enough
  have both := matched _ enough
  cases both with
  | ok both => exact .ok (Nat.le_refl _) related both
  | error fault => exact .error (Nat.le_refl _) (stage.runs.fails related)

lemma array_getD {values images : Array Value} (shows : mirror.Lists limit values.toList images.toList)
    (index : Nat) : mirror.Shows limit (values.getD index .null) (images.getD index .null) := by
  have found := lists_getD shows index
  simpa [Array.getD_eq_getD_getElem?, getD_eq_getElem?_getD] using found

lemma default_instances (limit : Nat) : mirror.Instances limit default default :=
  ⟨lists_nil, lists_nil, lists_nil, lists_nil, lists_nil⟩

lemma instance_follows (inside : mirror.owns owner) :
    stage.runs.Follows least mirror.Instances (instanceOf owner) (instanceOf owner) := by
  cases owner with
  | known id =>
    refine follows_state fun own image related _ => follows_pure fun count le => ?_
    exact instances_mono le (stage.instances related.1 inside)
  | fieldless settable => exact follows_pure fun count _ => default_instances count
  | barred => exact follows_throw

lemma field_follows (inside : mirror.owns owner) {field : Instance → Array Value}
    (shown : ∀ limit own image, mirror.Instances limit own image →
      mirror.Lists limit (field own).toList (field image).toList) (index : Nat) : stage.runs.Follows least mirror.Shows
      (do return (field (← instanceOf owner)).getD index .null : Run ω Value)
      (do return (field (← instanceOf owner)).getD index .null) := by
  refine follows_bind (instance_follows inside) fun count own image _ instances => ?_
  exact follows_pure fun _ le => shows_mono le (array_getD (shown _ _ _ instances) index)

lemma atom_makes (positive : 0 < least) {refs refs' : Array Value}
    (shows : mirror.Lists least refs.toList refs'.toList) (atom : Target.Atom) :
    mirror.Makes least (Atom.value refs atom) (Atom.value refs' atom) := by
  cases atom with
  | i64 value =>
    simp only [Atom.value]
    split
    · exact makes_held (shows_zero_pair positive)
    · exact makes_pair
  | ref function => exact makes_held (array_getD shows function.toNat)
  | null => exact makes_held shows_null
  | _ => exact makes_held shows_number

lemma read_follows (inside : mirror.owns owner) (operand : Target.Operand) :
    stage.runs.Follows least mirror.Shows (read owner operand) (read owner operand) := by
  have constant (atom : Target.Atom) : stage.runs.Follows least mirror.Shows (Run.onStore (Execution.make (Atom.value #[] atom)))
      (Run.onStore (Execution.make (Atom.value #[] atom))) :=
    on_store_follows (follows_counted fun _ _ positive => make_follows (atom_makes positive lists_nil atom))
  cases operand with
  | slot index =>
    refine follows_state fun own image related _ => follows_pure fun count le => ?_
    exact shows_mono le (array_getD related.2.slots index)
  | «local» index =>
    refine follows_state fun own image related _ => follows_pure fun count le => ?_
    exact shows_mono le (array_getD related.2.locals index)
  | atom atom =>
    cases atom with
    | ref function =>
      exact field_follows inside (fun _ _ _ instances => instances.refs) function.toNat
    | i32 value => exact constant (.i32 value)
    | i64 value => exact constant (.i64 value)
    | float value => exact constant (.float value)
    | null => exact constant .null

lemma read_number_follows (inside : mirror.owns owner) (operand : Target.Operand) :
    stage.runs.Follows least Same (readNumber owner operand) (readNumber owner operand) := by
  refine follows_bind (read_follows inside operand) fun count value image _ shows => ?_
  obtain ⟨-, rfl⟩ := shows
  rw [rename_to_number]
  exact run_except_follows fun _ _ => matched_same _

end Reading

section Store

variable {own : Store ω} {image : Store ω'} {limit : Nat} {value other : Value}

section

variable (related : stage.related own image) (shows : mirror.Shows limit value other)

include related shows

lemma memory_shown :
    image.memory? other = own.memory? value := by
  have found := stage.object related shows
  unfold Store.memory?
  generalize own.object? value = left at found
  generalize image.object? other = right at found
  cases found with
  | none => rfl
  | @some object object' objects =>
    obtain ⟨slot, body⟩ := object
    obtain ⟨slot', body'⟩ := object'
    cases objects.body <;> rfl

lemma table_shown :
    Option.Rel (mirror.tables (stage.count own)) (own.table? value) (image.table? other) := by
  have found := stage.object related shows
  unfold Store.table?
  generalize own.object? value = left at found
  generalize image.object? other = right at found
  cases found with
  | none => exact .none
  | @some object object' objects =>
    obtain ⟨slot, body⟩ := object
    obtain ⟨slot', body'⟩ := object'
    cases objects.body with
    | table tables => exact .some tables
    | _ => exact .none

lemma memory_changed (change : Memory → Memory) :
    stage.related (own.modifyMemory value change) (image.modifyMemory other change) ∧
      stage.count own ≤ stage.count (own.modifyMemory value change) := by
  refine stage.alter related shows ?_
  rintro ⟨slot, body⟩ ⟨slot', body'⟩ ⟨slots, bodies⟩
  cases bodies with
  | memory content => exact ⟨slots, .memory _⟩
  | cell => exact ⟨slots, .cell⟩
  | table tables => exact ⟨slots, .table tables⟩
  | record allowed content => exact ⟨slots, .record allowed content⟩

lemma table_changed {table table' : Table} (tables : mirror.tables (stage.count own) table table') :
    stage.related (own.setTable value table) (image.setTable other table') ∧
      stage.count own ≤ stage.count (own.setTable value table) :=
  stage.alter related shows fun _ _ objects => ⟨objects.value, .table tables⟩

end

end Store

section Changing

lemma set_slot_follows (index : Nat) (shows : mirror.Shows least value image) :
    stage.runs.Follows least Nothing (setSlot index value) (setSlot index image) := by
  refine follows_modify ?_
  rintro ⟨⟨locals, slots⟩, store⟩ ⟨⟨locals', slots'⟩, store'⟩ related enough
  refine ⟨⟨related.1, related.2.locals, ?_⟩, Nat.le_refl _⟩
  simp only [Array.toList_setIfInBounds]
  exact lists_set related.2.slots index (shows_mono enough shows)

lemma set_local_follows (index : Nat) (shows : mirror.Shows least value image) :
    stage.runs.Follows least Nothing (setLocal index value) (setLocal index image) := by
  refine follows_modify ?_
  rintro ⟨⟨locals, slots⟩, store⟩ ⟨⟨locals', slots'⟩, store'⟩ related enough
  refine ⟨⟨related.1, ?_, related.2.slots⟩, Nat.le_refl _⟩
  simp only [Array.toList_setIfInBounds]
  exact lists_set related.2.locals index (shows_mono enough shows)

lemma set_slots_follows {indices : List Nat} {values : List Value} (shows : mirror.Lists least values images) :
    stage.runs.Follows least Nothing (setSlots indices values) (setSlots indices images) := by
  induction indices generalizing values images least with
  | nil => exact follows_pure fun _ _ => trivial
  | cons index rest ih =>
    refine follows_bind (set_slot_follows index (lists_head shows)) fun count _ _ le _ => ?_
    exact ih (lists_tail (lists_mono le shows))

lemma modify_store_follows {change : Store ω → Store ω} {change' : Store ω' → Store ω'}
    (changes : ∀ own image, stage.related own image → least ≤ stage.count own →
      stage.related (change own) (change' image) ∧ stage.count own ≤ stage.count (change own)) :
    stage.runs.Follows least Nothing (Run.modifyStore change) (Run.modifyStore change') := by
  refine follows_modify ?_
  rintro ⟨frame, store⟩ ⟨frame', store'⟩ related enough
  obtain ⟨after, more⟩ := changes store store' related.1 enough
  exact ⟨⟨after, frames_mono more related.2⟩, more⟩

lemma modify_memory_follows {other : Value} (shows : mirror.Shows least value other) {change : Memory → Memory} :
    stage.runs.Follows least Nothing (Run.modifyStore fun store => store.modifyMemory value change)
      (Run.modifyStore fun store => store.modifyMemory other change) :=
  modify_store_follows fun _ _ related _ => memory_changed related shows change

variable (inside : mirror.owns owner) include inside

lemma memory_value_follows : stage.runs.Follows least mirror.Shows (memoryValue owner) (memoryValue owner) :=
  field_follows inside (fun _ _ _ instances => instances.memories) 0

lemma memory_follows : stage.runs.Follows least Same (memory owner) (memory owner) := by
  refine follows_bind (memory_value_follows inside) fun count value other _ shows => ?_
  refine follows_state fun own image related _ => ?_
  rw [memory_shown related.1 shows]
  cases own.store.memory? value with
  | none => exact follows_throw
  | some memory => exact follows_pure fun _ _ => rfl

lemma change_memory_follows {change change' : Number → Except Fault (Memory → Memory)}
    (same : ∀ size, change' size = change size) : stage.runs.Follows least Nothing (changeMemory owner change)
      (changeMemory owner change') := by
  obtain rfl : change' = change := funext same
  refine follows_same (memory_follows inside) fun count memory le => ?_
  refine follows_same (run_except_follows fun _ _ => matched_same _) fun count write le => ?_
  refine follows_bind (memory_value_follows inside) fun count value other _ shows => ?_
  exact modify_memory_follows shows

lemma table_value_follows (index : UInt32) :
    stage.runs.Follows least mirror.Shows (tableValue owner index) (tableValue owner index) :=
  field_follows inside (fun _ _ _ instances => instances.tables) index.toNat

lemma table_follows (index : UInt32) : stage.runs.Follows least mirror.tables (table owner index) (table owner index) := by
  refine follows_bind (table_value_follows inside index) fun count value other _ shows => ?_
  refine follows_state fun own image related _ => ?_
  have found := table_shown related.1 shows
  generalize own.store.table? value = left at found
  generalize image.store.table? other = right at found
  cases found with
  | none => exact follows_throw
  | some tables => exact follows_pure fun _ le => mirror.larger le tables

lemma set_table_follows (index : UInt32) {table image : Table} (tables : mirror.tables least table image) :
    stage.runs.Follows least Nothing (setTable owner index table) (setTable owner index image) := by
  refine follows_bind (table_value_follows inside index) fun count value other le shows => ?_
  refine modify_store_follows fun own image related enough => ?_
  exact table_changed related shows (mirror.larger (Nat.le_trans le enough) tables)

lemma get_global_follows (index : Nat) : stage.runs.Follows least mirror.Shows (getGlobal names owner index)
      (getGlobal names owner index) := by
  refine follows_bind (instance_follows inside) fun count own image _ instances => ?_
  have shows := array_getD instances.globals index
  refine follows_ite ?_ (follows_pure fun _ le => shows_mono le shows)
  refine follows_state fun own image related _ => ?_
  have found := stage.object related.1 shows
  generalize own.store.object? _ = left at found ⊢
  generalize image.store.object? _ = right at found ⊢
  cases found with
  | none => exact follows_throw
  | some objects => exact follows_pure fun _ le => shows_mono le objects.value

lemma set_own_follows (index : Nat) (shows : mirror.Shows least value image) :
    stage.runs.Follows least Nothing (setOwn owner index value) (setOwn owner index image) := by
  cases owner with
  | known id =>
    exact modify_store_follows fun own image related enough =>
      stage.assign related inside (shows_mono enough shows) index
  | fieldless settable =>
    cases settable with
    | true => exact follows_pure fun _ _ => trivial
    | false => exact follows_throw
  | barred => exact follows_throw

lemma set_global_follows (index : Nat) (shows : mirror.Shows least value image) :
    stage.runs.Follows least Nothing (setGlobal names owner index value) (setGlobal names owner index image) := by
  refine follows_ite ?_ (set_own_follows inside index shows)
  refine follows_bind (instance_follows inside) fun count own other le instances => ?_
  have cells := array_getD instances.globals index
  refine follows_state fun own image related more => ?_
  have found := stage.object related.1 cells
  generalize own.store.object? _ = left at found ⊢
  generalize image.store.object? _ = right at found ⊢
  cases found with
  | none => exact follows_throw
  | some objects =>
    refine modify_store_follows fun own image related enough => ?_
    refine stage.alter related cells fun object object' objects => ⟨?_, objects.body⟩
    exact shows_mono (Nat.le_trans (Nat.le_trans le more) enough) shows

end Changing

section Actions

lemma deliver_follows {operation : Execution ω Made} {other : Execution ω' Made}
    (follows : stage.Follows least mirror.Makes operation other) :
    stage.runs.Follows least mirror.Shows (deliver operation) (deliver other) :=
  on_store_follows (follows_bind follows fun _ _ _ _ makes => make_follows makes)

lemma same_run_follows {result : Except Fault α} : stage.runs.Follows least Same (Run.ofExcept result) (Run.ofExcept result) :=
  run_except_follows fun _ _ => matched_same result

variable (inside : mirror.owns owner) include inside

lemma compute_follows (invokes : stage.Invokes invoke invoke') (computation : Target.Computation) :
    stage.runs.Follows least mirror.Shows (compute ⟨code, invoke, owner⟩ computation)
      (compute ⟨code, invoke', owner⟩ computation) := by
  have shares : stage.Shares (Context.mk code invoke owner).shared (Context.mk code invoke' owner).shared :=
    context_shares invokes
  cases computation with
  | unary op a =>
    refine follows_bind (read_follows inside a) fun count value image _ shows => ?_
    exact deliver_follows (follows_counted fun _ le positive =>
      unary_follows shares positive op (shows_mono le shows))
  | binary op a b =>
    refine follows_bind (read_follows inside a) fun count value image _ left => ?_
    refine follows_bind (read_follows inside b) fun count operand other le right => ?_
    exact deliver_follows (follows_counted fun _ more positive =>
      binary_follows shares positive op (shows_mono (Nat.le_trans le more) left) (shows_mono more right))
  | load access address offset =>
    refine follows_same (read_number_follows inside address) fun count place _ => ?_
    refine follows_same (memory_follows inside) fun count memory _ => ?_
    exact deliver_follows (made_follows (load_matched (shares.negZero _) access offset))
  | memorySize =>
    refine follows_same (memory_follows inside) fun count memory _ => ?_
    exact follows_pure fun _ _ => shows_number
  | memoryGrow delta =>
    refine follows_same (read_number_follows inside delta) fun count pages _ => ?_
    refine follows_same (memory_follows inside) fun count memory _ => ?_
    refine follows_bind (memory_value_follows inside) fun count value image _ shows => ?_
    refine follows_bind (modify_memory_follows shows) fun count _ _ _ _ => ?_
    exact follows_pure fun _ _ => shows_number
  | global index => exact get_global_follows inside index
  | tableGet index i =>
    refine follows_same (read_number_follows inside i) fun count place _ => ?_
    refine follows_bind (table_follows inside index) fun count table image _ tables => ?_
    exact run_except_follows fun _ le => get_matched (mirror.larger le tables)
  | tableGrow index value delta =>
    refine follows_bind (read_follows inside value) fun count value image _ shows => ?_
    refine follows_same (read_number_follows inside delta) fun count size le => ?_
    have shows := shows_mono le shows
    refine follows_bind (table_follows inside index) fun count table other le tables => ?_
    refine follows_bind (run_except_follows fun count enough => grow_matched (mirror.larger enough tables)
      (shows_mono (Nat.le_trans le enough) shows)) fun count result image _ both => ?_
    obtain ⟨size, table⟩ := result
    obtain ⟨size', table'⟩ := image
    obtain ⟨rfl, after⟩ := both
    refine follows_bind (set_table_follows inside index after) fun count _ _ _ _ => ?_
    exact follows_pure fun _ _ => shows_number
  | tableSize index =>
    refine follows_bind (table_follows inside index) fun count table image _ tables => ?_
    rw [mirror.size tables]
    refine follows_same same_run_follows fun count size _ => ?_
    exact follows_pure fun _ _ => shows_number

lemma callee_follows (target : Target.Callee) : stage.runs.Follows least (fun _ call image => mirror.calls call ∧ image = call)
      (callee owner target) (callee owner target) := by
  cases target with
  | defined function => exact follows_pure fun _ _ => ⟨mirror.defined.mpr inside, rfl⟩
  | imported function =>
    refine follows_bind (instance_follows inside) fun count own image _ instances => ?_
    obtain ⟨within, same⟩ := array_getD instances.functions function
    rw [same]
    cases found : own.functions.getD function .null with
    | function call =>
      rw [found] at within
      exact follows_pure fun _ _ => ⟨mirror.function within, rfl⟩
    | _ => exact follows_throw
  | element index i key =>
    refine follows_same (read_number_follows inside i) fun count place _ => ?_
    refine follows_bind (table_follows inside index) fun count table image _ tables => ?_
    exact run_except_follows fun _ _ => callee_matched tables key

lemma perform_follows (invokes : stage.Invokes invoke invoke') (action : Target.Action) :
    stage.runs.Follows least Nothing (perform ⟨code, invoke, owner⟩ action) (perform ⟨code, invoke', owner⟩ action) := by
  cases action with
  | setSlot slot value =>
    exact follows_bind (read_follows inside value) fun _ _ _ _ shows => set_slot_follows slot shows
  | setLocal index value =>
    exact follows_bind (read_follows inside value) fun _ _ _ _ shows => set_local_follows index shows
  | move pairs =>
    refine follows_bind (each_follows pairs fun pair _ => read_follows inside pair.2) fun _ _ _ _ shows => ?_
    exact set_slots_follows shows
  | compute slot value =>
    exact follows_bind (compute_follows inside invokes value) fun _ _ _ _ shows =>
      set_slot_follows slot shows
  | call slot results target args =>
    refine follows_bind (callee_follows inside target) fun count call _ _ called => ?_
    obtain ⟨within, rfl⟩ := called
    refine follows_bind (each_follows args fun operand _ => read_follows inside operand) fun count args images _ shows => ?_
    refine follows_bind (on_store_follows (invokes _ _ _ _ within shows)) fun _ _ _ _ values => ?_
    exact set_slots_follows values
  | store access address offset value =>
    refine follows_same (read_number_follows inside address) fun count place _ => ?_
    refine follows_bind (read_follows inside value) fun count value image _ shows => ?_
    exact change_memory_follows inside fun size => store_shown size access offset shows
  | setGlobal index value =>
    exact follows_bind (read_follows inside value) fun _ _ _ _ shows =>
      set_global_follows inside index shows
  | tableSet index i value =>
    refine follows_same (read_number_follows inside i) fun count place _ => ?_
    refine follows_bind (read_follows inside value) fun count value image _ shows => ?_
    refine follows_bind (table_follows inside index) fun count table other le tables => ?_
    refine follows_bind (run_except_follows fun _ enough => set_matched (mirror.larger enough tables) place
      (shows_mono (Nat.le_trans le enough) shows)) fun _ _ _ _ after => ?_
    exact set_table_follows inside index after
  | tableFill index i value count =>
    refine follows_same (read_number_follows inside i) fun _ place _ => ?_
    refine follows_bind (read_follows inside value) fun _ value image _ shows => ?_
    refine follows_same (read_number_follows inside count) fun _ length le => ?_
    have shows := shows_mono le shows
    refine follows_bind (table_follows inside index) fun _ table other le tables => ?_
    refine follows_bind (run_except_follows fun _ enough => fill_matched (mirror.larger enough tables) place
      length (shows_mono (Nat.le_trans le enough) shows)) fun _ _ _ _ after => ?_
    exact set_table_follows inside index after
  | memoryCopy target source count =>
    refine follows_same (read_number_follows inside target) fun _ place _ => ?_
    refine follows_same (read_number_follows inside source) fun _ origin _ => ?_
    refine follows_same (read_number_follows inside count) fun _ length _ => ?_
    exact change_memory_follows inside fun _ => rfl
  | memoryFill target value count =>
    refine follows_same (read_number_follows inside target) fun _ place _ => ?_
    refine follows_bind (read_follows inside value) fun _ value image _ shows => ?_
    refine follows_same (read_number_follows inside count) fun _ length _ => ?_
    exact change_memory_follows inside fun size => by simp only [Memory.fill, byte_shown shows]
  | unreachable => exact follows_throw

lemma holds_follows (test : Target.Test) : stage.runs.Follows least Same (holds owner test) (holds owner test) := by
  cases test with
  | nonzero value =>
    refine follows_bind (read_follows inside value) fun count value image _ shows => ?_
    have zero : image.isZero = value.isZero := zero_shown shows
    exact follows_pure fun _ _ => congrArg not zero
  | zero value =>
    refine follows_bind (read_follows inside value) fun count value image _ shows => ?_
    exact follows_pure fun _ _ => zero_shown shows
  | equals value number =>
    refine follows_bind (read_follows inside value) fun count value image _ shows => ?_
    obtain ⟨-, rfl⟩ := shows
    exact follows_pure fun _ _ => rename_same mirror.names value (.ofInt number)
  | between value low high =>
    refine follows_bind (read_follows inside value) fun count value image _ shows => ?_
    obtain ⟨-, rfl⟩ := shows
    have least : le (.ofInt low) (value.rename mirror.names) = le (.ofInt low) value := rename_le mirror.names (.ofInt low) value
    have greatest : le (value.rename mirror.names) (.ofInt high) = le value (.ofInt high) :=
      rename_le mirror.names value (.ofInt high)
    rw [least, greatest]
    refine follows_same same_run_follows fun count above _ => ?_
    exact follows_ite same_run_follows (follows_pure fun _ _ => rfl)

end Actions

section Control

inductive Exits {β β' : Type} (post : Nat → β → β' → Prop) (limit : Nat) :
    Target.Exit β → Target.Exit β' → Prop where
  | next : Exits post limit .next .next
  | left : Exits post limit .left .left
  | finished {values : β} {images : β'} (both : post limit values images) :
      Exits post limit (.finished values) (.finished images)
  | unfinished : Exits post limit .unfinished .unfinished

def Leaves {β β' : Type} (post : Nat → β → β' → Prop) (limit : Nat) (leave : Target.Exit β × Target.Flag)
    (image : Target.Exit β' × Target.Flag) : Prop :=
  Exits post limit leave.1 image.1 ∧ image.2 = leave.2

/-- Two meanings of statements under which every part of them runs side by side. -/
structure Meanings {ε σ τ β β' : Type} (twin : Twin ε σ τ) (post : Nat → β → β' → Prop)
    (meaning : Target.Interpretation ε σ β) (meaning' : Target.Interpretation ε τ β') : Prop where
  act : ∀ least action, twin.Follows least Nothing (meaning.act action) (meaning'.act action)
  test : ∀ least test, twin.Follows least Same (meaning.test test) (meaning'.test test)
  yield : ∀ least values, twin.Follows least post (meaning.yield values) (meaning'.yield values)
  mono : ∀ {limit larger values images}, limit ≤ larger → post limit values images → post larger values images

variable {ε σ τ β β' : Type} {twin : Twin ε σ τ} {post : Nat → β → β' → Prop}
  {meaning : Target.Interpretation ε σ β} {meaning' : Target.Interpretation ε τ β'}

lemma stays {least : Nat} {exit : Target.Exit β} {exit' : Target.Exit β'} {flag : Target.Flag}
    (mono : ∀ {limit larger values images}, limit ≤ larger → post limit values images → post larger values images)
    (exits : Exits post least exit exit') :
    twin.Follows least (Leaves post) (pure (exit, flag) : EStateM ε σ _) (pure (exit', flag)) := by
  refine follows_pure fun _ le => ⟨?_, rfl⟩
  cases exits with
  | next => exact .next
  | left => exact .left
  | finished both => exact .finished (mono le both)
  | unfinished => exact .unfinished

variable (meanings : Meanings twin post meaning meaning') include meanings

lemma repeat_follows {round : Target.Flag → EStateM ε σ (Target.Exit β × Target.Flag)}
    {round' : Target.Flag → EStateM ε τ (Target.Exit β' × Target.Flag)}
    (follows : ∀ least flag, twin.Follows least (Leaves post) (round flag) (round' flag)) (rounds : Nat)
    (flag : Target.Flag) : twin.Follows least (Leaves post) (Target.repeatBlock round rounds flag)
      (Target.repeatBlock round' rounds flag) := by
  induction rounds generalizing flag least with
  | zero => exact stays meanings.mono .unfinished
  | succ rounds ih =>
    refine follows_bind (follows least flag) ?_
    rintro count ⟨exit, _⟩ ⟨exit', flag⟩ - ⟨exits, rfl⟩
    cases exits with
    | next => exact ih flag
    | left => exact stays meanings.mono .next
    | finished both => exact stays meanings.mono (.finished both)
    | unfinished => exact stays meanings.mono .unfinished

lemma condition_follows (condition : Target.Condition) (flag : Target.Flag) :
    twin.Follows least Same (condition.holds meaning flag) (condition.holds meaning' flag) := by
  cases condition with
  | value test => exact meanings.test least test
  | flagIs label | flagSet => exact follows_pure fun _ _ => rfl

mutual

lemma stmt_follows (rounds : Nat) (stmt : Target.Stmt) (least : Nat) (flag : Target.Flag) :
    twin.Follows least (Leaves post) (stmt.run meaning rounds flag) (stmt.run meaning' rounds flag) := by
  cases stmt with
  | act action =>
    exact follows_bind (meanings.act least action) fun _ _ _ _ _ => stays meanings.mono .next
  | setFlag label | clearFlag => exact stays meanings.mono .next
  | leave => exact stays meanings.mono .left
  | ret values =>
    exact follows_bind (meanings.yield least values) fun _ _ _ _ both => stays meanings.mono (.finished both)
  | choose arms => exact arms_follow rounds arms least flag
  | once body =>
    refine follows_bind (block_follows rounds body least flag) ?_
    rintro count ⟨exit, _⟩ ⟨exit', flag⟩ - ⟨exits, rfl⟩
    refine stays meanings.mono ?_
    cases exits with
    | finished both => exact .finished both
    | unfinished => exact .unfinished
    | _ => exact .next
  | forever body => exact repeat_follows meanings (block_follows rounds body) rounds flag

lemma block_follows (rounds : Nat) (block : Target.Block) (least : Nat) (flag : Target.Flag) :
    twin.Follows least (Leaves post) (block.run meaning rounds flag) (block.run meaning' rounds flag) := by
  cases block with
  | done => exact stays meanings.mono .next
  | next first rest =>
    refine follows_bind (stmt_follows rounds first least flag) ?_
    rintro count ⟨exit, _⟩ ⟨exit', flag⟩ - ⟨exits, rfl⟩
    cases exits with
    | next => exact block_follows rounds rest count flag
    | left => exact stays meanings.mono .left
    | finished both => exact stays meanings.mono (.finished both)
    | unfinished => exact stays meanings.mono .unfinished

lemma arms_follow (rounds : Nat) (arms : Target.Arms) (least : Nat) (flag : Target.Flag) :
    twin.Follows least (Leaves post) (arms.run meaning rounds flag) (arms.run meaning' rounds flag) := by
  cases arms with
  | none => exact stays meanings.mono .next
  | otherwise body => exact block_follows rounds body least flag
  | arm condition body rest =>
    refine follows_same (condition_follows meanings condition flag) fun count yes _ => ?_
    exact follows_ite (block_follows rounds body count flag) (arms_follow rounds rest count flag)

end

end Control

section Frames

lemma each_listed {ι : Type} (items : List ι) {value image : ι → Value}
    (each : ∀ item, mirror.Shows least (value item) (image item)) : mirror.Lists least (items.map value) (items.map image) := by
  refine ⟨forall_mem_map.mpr fun item _ => (each item).1, ?_⟩
  rw [map_map]
  exact map_congr_left fun item _ => (each item).2

lemma start_frames (function : Target.Function) (positive : 0 < least) (shows : mirror.Lists least args images) :
    mirror.Frames least (frameOf function args) (frameOf function images) where
  locals := by
    have zero (type : Wasm.ValueType) : mirror.Shows least (zeroOf type) (zeroOf type) := by
      cases type with
      | i64 => exact shows_zero_pair positive
      | funcref | externref => exact shows_null
      | _ => exact shows_number
    have params := each_listed (range function.params) fun i => lists_getD shows i
    have rest := each_listed function.locals zero
    simp only [frameOf, Array.toList_append]
    exact ⟨forall_mem_append.mpr ⟨params.1, rest.1⟩, by rw [map_append, ← params.2, ← rest.2]⟩
  slots := by
    simp only [frameOf, Array.toList_replicate]
    refine ⟨fun value member => ?_, ?_⟩
    · rw [eq_of_mem_replicate member]
      exact mirror.null
    · rw [map_replicate]
      rfl

lemma body_follows (inside : mirror.owns owner) (invokes : stage.Invokes invoke invoke')
    (function : Target.Function) (shows : mirror.Lists least args images) :
    stage.Follows least mirror.Lists (runBody ⟨code, invoke, owner⟩ function args)
      (runBody ⟨code, invoke', owner⟩ function images) := by
  have meanings : Meanings stage.runs mirror.Lists (meaning ⟨code, invoke, owner⟩) (meaning ⟨code, invoke', owner⟩) :=
    ⟨fun _ action => perform_follows inside invokes action, fun _ test => holds_follows inside test,
      fun _ values => each_follows values fun operand _ => read_follows inside operand, lists_mono⟩
  intro own image related enough
  have frames := start_frames function (stage.positive related) (lists_mono enough shows)
  have ends := block_follows meanings loopRounds function.body (stage.count own) none
    ⟨frameOf function args, own⟩ ⟨frameOf function images, image⟩ ⟨related, frames⟩ (Nat.le_refl _)
  simp only [runBody]
  generalize function.body.run (meaning ⟨code, invoke, owner⟩) loopRounds none ⟨frameOf function args, own⟩ = left at ends
  generalize function.body.run (meaning ⟨code, invoke', owner⟩) loopRounds none ⟨frameOf function images, image⟩ = right at ends
  cases ends with
  | @ok leave other after after' more both leaves =>
    obtain ⟨exit, flag⟩ := leave
    obtain ⟨exit', flag'⟩ := other
    obtain ⟨exits, -⟩ := leaves
    cases exits with
    | finished shows => exact .ok more both.1 shows
    | _ => exact .ok more both.1 lists_nil
  | error more failed => exact .error more failed

end Frames

end WasmLua.Exec.Stage
