import WasmLua.Proofs.Link.Preparation

namespace WasmLua.Exec

open List
open Target.Program
variable {ω α β : Type}

inductive Body.Within : Body → Body → Prop where
  | same (body : Body) : Within body body
  | memory (content changed : Memory) (pages : changed.pages = content.pages)
      (size : changed.size = content.size) (maximum : changed.maximum = content.maximum)
      (outside : ∀ key, ¬ Inside content.size key → changed.data[key]? = content.data[key]?) :
      Within (.memory content) (.memory changed)
  | table (content changed : Table) (size : changed.size = content.size)
      (maximum : changed.maximum = content.maximum)
      (outside : ∀ key, ¬ Inside content.size key → changed.elements[key]? = content.elements[key]?) :
      Within (.table content) (.table changed)

lemma Body.within_trans {first third : Body} (second : Body) (left : first.Within second)
    (right : second.Within third) : first.Within third := by
  cases left with
  | same => exact right
  | memory content changed pages size maximum outside =>
    cases right with
    | same => exact .memory content changed pages size maximum outside
    | memory _ final pages' size' maximum' outside' =>
      refine .memory content final (pages'.trans pages) (size'.trans size) (maximum'.trans maximum) ?_
      intro key beyond
      rw [outside' key (size ▸ beyond), outside key beyond]
  | table content changed size maximum outside =>
    cases right with
    | same => exact .table content changed size maximum outside
    | table _ final size' maximum' outside' =>
      refine .table content final (size'.trans size) (maximum'.trans maximum) ?_
      intro key beyond
      rw [outside' key (size ▸ beyond), outside key beyond]

structure Object.Within (object changed : Object) : Prop where
  value : changed.value = object.value
  body : object.body.Within changed.body

namespace Store

structure Within (before after : Store ω) : Prop where
  others : after = { before with objects := after.objects, pairs := after.pairs }
  objects : ∀ address : Nat, Option.Rel Object.Within before.objects[address]? after.objects[address]?

variable {before after : Store ω}

lemma within_of_unchanged (same : Unchanged before after) : Within before after := by
  obtain ⟨pairs, rfl⟩ := same
  refine ⟨rfl, fun address => ?_⟩
  cases before.objects[address]? with
  | none => exact .none
  | some object => exact .some ⟨rfl, .same _⟩

lemma within_trans (left : Within first second)
    (right : Within second third) : Within first third := by
  refine ⟨?_, fun address => ?_⟩
  · rw [right.others, left.others]
  · have before := left.objects address
    have after := right.objects address
    generalize first.objects[address]? = a at before
    generalize second.objects[address]? = b at before after
    generalize third.objects[address]? = c at after
    cases before with
    | none =>
      cases after
      exact .none
    | some inside =>
      cases after with
      | some also =>
        exact .some ⟨also.value.trans inside.value, Body.within_trans _ inside.body also.body⟩

lemma within_slots (within : Within before after) : SameSlots before after := by
  apply Array.ext_getElem?
  intro address
  have objects := within.objects address
  rw [Array.getElem?_map, Array.getElem?_map]
  generalize before.objects[address]? = a at objects
  generalize after.objects[address]? = b at objects
  cases objects with
  | none => rfl
  | some inside => exact congrArg some inside.value.symm

lemma within_modify (found : store.objects[address]? = some object) (inside : object.Within (change object)) :
    Within store (store.modifyObject (.object address) change) := by
  refine ⟨rfl, fun other => ?_⟩
  simp only [modifyObject, Array.getElem?_modify]
  split
  · rename_i here
    subst here
    rw [found]
    exact .some inside
  · cases store.objects[other]? with
    | none => exact .none
    | some object => exact .some ⟨rfl, .same _⟩

end Store

namespace Body

def put (key : Number) (value : Value) : Body → Body
  | .table content => .table (content.put key value)
  | .memory content =>
    match value with
    | .number byte => .memory (content.setByte key byte)
    | _ => .memory content
  | body => body

def writeFrom (base : Number) : Nat → List Value → Body → Body
  | _, [], body => body
  | position, first :: rest, body =>
    writeFrom base (position + 1) rest (body.put (base + .ofInt position) first)

def fill (place : Number) (items : List Value) (body : Body) : Except Fault Body :=
  let base := Arithmetic.unsigned place - .ofInt 1
  if base.isNaN && !items.isEmpty then .error .place else .ok (body.writeFrom base 1 items)

lemma fill_table (table : Table) (place : Number) (values : List Value) :
    fill place values (.table table) = .table <$> table.init place values := by
  have written (base : Number) (first : Nat) :
      writeFrom base first values (.table table) = .table (Table.writeFrom base first values table) := by
    induction values generalizing first table with
    | nil => rfl
    | cons value rest ih => exact ih _ _
  simp only [fill, Table.init, written]
  split <;> rfl

lemma fill_memory (memory : Memory) (place : Number) (bytes : Bytes) :
    fill place (bytes.map fun byte => .number (.ofInt byte.toNat)) (.memory memory)
      = (fun change => .memory (change memory)) <$> Memory.init place bytes := by
  have written (base : Number) (first : Nat) :
      writeFrom base first (bytes.map fun byte => .number (.ofInt byte.toNat)) (.memory memory)
        = .memory (Memory.writeFrom base first bytes memory) := by
    induction bytes generalizing first memory with
    | nil => rfl
    | cons byte rest ih => exact ih _ _
  simp only [fill, Memory.init, Memory.writing, written, isEmpty_map]
  cases bytes with
  | nil => simp [Memory.writeFrom]
  | cons byte rest =>
    simp only [isEmpty_cons, Bool.not_false, Bool.and_true, Bool.false_eq_true, if_false]
    split <;> rfl

end Body

section Filling

variable {base size : Number} {segment : Segment} {body : Body} {items : List Value}

def Fits (size offset : Number) (count : Nat) : Prop := ∀ item, 1 ≤ item → item ≤ count →
    (Arithmetic.unsigned offset - .ofInt 1).isNaN = false ∧ Inside size (Arithmetic.unsigned offset - .ofInt 1 + .ofInt item)

lemma Body.put_within (value : Value) (sized : segment.size? body = some size)
    (inside : Inside size key) : body.Within (body.put key value) := by
  have other (place : Number) (beyond : ¬ Inside size place) : ¬ key = place := by
    rintro rfl
    exact beyond inside
  cases body with
  | memory content =>
    cases segment <;> cases sized
    cases value with
    | number byte =>
      refine .memory _ _ rfl rfl rfl fun place beyond => ?_
      simp only [Memory.setByte, Std.HashMap.getElem?_insert, beq_iff_eq, if_neg (other place beyond)]
    | _ => exact .same _
  | table content =>
    cases segment <;> cases sized
    simp only [put, Table.put]
    split
    · refine .table _ _ rfl rfl fun place beyond => ?_
      simp only [Std.HashMap.getElem?_erase, beq_iff_eq, if_neg (other place beyond)]
    · refine .table _ _ rfl rfl fun place beyond => ?_
      simp only [Std.HashMap.getElem?_insert, beq_iff_eq, if_neg (other place beyond)]
  | _ => exact .same _

lemma Body.within_size (within : body.Within changed) : segment.size? changed = segment.size? body := by
  cases within with
  | same => rfl
  | memory content changed pages size => cases segment <;> simp [Segment.size?, size]
  | table content changed size => cases segment <;> simp [Segment.size?, size]

lemma Body.write_within (first : Nat) (sized : segment.size? body = some size)
    (inside : ∀ item, first ≤ item → item < first + items.length → Inside size (base + .ofInt item)) :
    body.Within (body.writeFrom base first items) := by
  induction items generalizing first body with
  | nil => exact .same _
  | cons value rest ih =>
    rw [length_cons] at inside
    have step := Body.put_within value sized (inside first (by omega) (by omega))
    exact Body.within_trans _ step (ih (first + 1) ((Body.within_size step).trans sized)
      fun item low high => inside item (by omega) (by omega))

lemma Body.fill_within (sized : segment.size? body = some size) (fits : Fits size place items.length) :
    ∃ changed, body.fill place items = .ok changed ∧ body.Within changed := by
  refine ⟨body.writeFrom (Arithmetic.unsigned place - .ofInt 1) 1 items, ?_, ?_⟩
  · cases items with
    | nil => simp [Body.fill]
    | cons value rest => simp [Body.fill, (fits 1 (by omega) (by simp)).1]
  · exact Body.write_within 1 sized fun item low high => (fits item low (by omega)).2

end Filling

namespace Segment

def limit : Segment → Nat
  | .element _ => elementChunk
  | .data _ => dataChunk

def writePiece (program : Target.Program) (owner : Instance) (segment : Segment)
    (piece : Nat × List Value) : Execution ω Unit := do
  let start ← Link.offset program owner segment.start
  let (body, _) ← segment.reach owner
  let body ← Execution.ofExcept (body.fill (Link.pieceOffset start piece.1) piece.2)
  modify fun store => store.modifyObject (segment.target owner) fun object => { object with body := body }

def write (program : Target.Program) (owner : Instance) (segment : Segment) : Execution ω Unit :=
  (chunks segment.limit (segment.items owner)).forM (segment.writePiece program owner)

lemma chunks_map {size start fuel : Nat} (items : List α) (change : α → β) : chunksFrom size start fuel (items.map change)
      = (chunksFrom size start fuel items).map fun piece => (piece.1, piece.2.map change) := by
  induction fuel generalizing start items with
  | zero => rfl
  | succ fuel ih =>
    rw [chunksFrom, chunksFrom, isEmpty_map]
    split
    · rfl
    · rw [map_cons, ← ih, map_take, map_drop]

lemma modify_found {store : Store ω} {value : Value} {object : Object} {change other : Object → Object}
    (found : store.object? value = some object) (same : change object = other object) :
    store.modifyObject value change = store.modifyObject value other := by
  cases value with
  | object address =>
    simp only [Store.modifyObject, Store.mk.injEq, and_true]
    apply Array.ext_getElem?
    intro place
    rw [Array.getElem?_modify, Array.getElem?_modify]
    split
    · rename_i here
      subst here
      rw [show store.objects[address]? = some object from found]
      exact congrArg some same
    · rfl
  | _ => rfl

variable {program : Target.Program} {owner : Instance} {segment : Segment} {store : Store ω}

lemma write_segments : (Link.writeSegments program owner : Execution ω Unit)
      = (ofProgram program).forM (write program owner) := by
  have elements : (Link.writeElement program owner : _ → Execution ω Unit) = fun init => write program owner (.element init) := by
    funext init
    unfold write items limit chunks
    rw [length_map, chunks_map, forM_eq_forM, forM_map]
    refine congrArg _ (funext fun piece => ?_)
    obtain ⟨position, functions⟩ := piece
    refine bind_congr fun start => funext fun store => ?_
    simp only [bind, EStateM.bind, Link.table_of_eq, reach_eq, found?, Store.table?, target]
    cases store.object? (owner.tables.getD init.table.toNat .null) with
    | none => rfl
    | some object =>
      obtain ⟨slot, body⟩ := object
      cases body with
      | table table =>
        simp only [Option.bind_some, size?, Option.map_some, Body.fill_table]
        cases table.init (Link.pieceOffset start position) _ <;> rfl
      | _ => rfl
  have data : (Link.writeData program owner : _ → Execution ω Unit) = fun init => write program owner (.data init) := by
    funext init
    unfold write items limit chunks
    rw [length_map, chunks_map, forM_eq_forM, forM_map]
    refine congrArg _ (funext fun piece => ?_)
    obtain ⟨position, bytes⟩ := piece
    refine bind_congr fun start => funext fun store => ?_
    simp only [bind, EStateM.bind, Link.memory_of_eq, reach_eq, found?, Store.memory?, target]
    cases found : store.object? (owner.memories.getD init.memory.toNat .null) with
    | none => rfl
    | some object =>
      obtain ⟨slot, body⟩ := object
      cases body with
      | memory memory =>
        simp only [Option.bind_some, size?, Option.map_some, Body.fill_memory]
        cases Memory.init (Link.pieceOffset start position) bytes with
        | error fault => rfl
        | ok change => exact congrArg (EStateM.Result.ok ()) (modify_found found rfl)
      | _ => rfl
  rw [ofProgram, forM_eq_forM, forM_append, forM_map, forM_map]
  simp only [Link.writeSegments, elements, data, forM_eq_forM]

lemma found_object (found : segment.found? owner store = some (body, size)) :
    ∃ address slot, segment.target owner = .object address ∧
      store.objects[address]? = some ⟨slot, body⟩ ∧ segment.size? body = some size := by
  obtain ⟨⟨slot, content⟩, held, same⟩ := Option.bind_eq_some_iff.mp found
  obtain ⟨_, sized, ⟨⟩⟩ := Option.map_eq_some_iff.mp same
  generalize segment.target owner = value at held
  cases value with
  | object address => exact ⟨address, slot, rfl, held, sized⟩
  | _ => cases held

lemma found_within (found : segment.found? owner before = some (body, size)) (within : before.Within store) :
    ∃ address slot content, segment.target owner = .object address ∧
      store.objects[address]? = some ⟨slot, content⟩ ∧ segment.size? content = some size := by
  obtain ⟨address, slot, place, held, sized⟩ := found_object found
  have objects := within.objects address
  rw [held] at objects
  generalize reached : store.objects[address]? = changed at objects
  cases objects with
  | @some _ object inside =>
    exact ⟨address, object.value, object.body, place, reached, (Body.within_size inside.body).trans sized⟩

end Segment

namespace Execution

variable {value : α} {next : α → Execution ω β} {after : Store ω} {result : Except Fault α}

variable (action : Execution ω α)

lemma bind_runs (next : α → Execution ω β) (store after : Store ω)
    (ran : action store = .ok value after) : (action >>= next) store = next value after := by
  simp only [bind, EStateM.bind, ran]

lemma bind_fails (ran : action store = .error raised after) : (action >>= next) store = .error raised after := by
  simp only [bind, EStateM.bind, ran]

lemma except_runs (store : Store ω) (done : result = .ok value) : ofExcept result store = .ok value store := by
  rw [done]
  rfl

lemma bind_succeeded {store final : Store ω} {result : β} (ran : (action >>= next) store = .ok result final) :
    ∃ value after, action store = .ok value after ∧ next value after = .ok result final := by
  simp only [bind, EStateM.bind] at ran
  cases first : action store with
  | ok value after =>
    simp only [first] at ran
    exact ⟨value, after, rfl, ran⟩
  | error raised after => simp [first] at ran

lemma except_succeeded (ran : ofExcept result store = .ok value after) :
    result = .ok value ∧ after = store := by
  cases result with
  | ok other =>
    cases ran
    exact ⟨rfl, rfl⟩
  | error fault => cases ran

lemma each_runs (invariant : Store ω → Prop) (items : List β) (action : β → Execution ω Unit)
    (step : ∀ item ∈ items, ∀ store, invariant store → ∃ after, action item store = .ok () after ∧ invariant after)
    (store : Store ω) (holds : invariant store) : ∃ after, items.forM action store = .ok () after ∧ invariant after := by
  induction items generalizing store with
  | nil => exact ⟨store, rfl, holds⟩
  | cons first rest ih =>
    obtain ⟨after, ran, kept⟩ := step first mem_cons_self store holds
    obtain ⟨final, also, still⟩ := ih (fun item member => step item (mem_cons_of_mem _ member)) after kept
    refine ⟨final, ?_, still⟩
    exact (bind_runs _ _ _ _ ran).trans also

end Execution

namespace Link

open Execution Store

lemma chunks_part (start : Nat) (items : List α)
    (member : (position, piece) ∈ chunksFrom size start fuel items) :
    position + piece.length ≤ start + items.length := by
  induction fuel generalizing start items with
  | zero => cases member
  | succ fuel ih =>
    rw [chunksFrom] at member
    split at member
    · cases member
    · rcases mem_cons.mp member with here | behind
      · cases here
        rw [length_take]
        omega
      · by_cases more : size ≤ items.length
        · have := ih (start + size) (items.drop size) behind
          rw [length_drop] at this
          omega
        · -- Nothing is left behind a piece that was cut short.
          rw [drop_eq_nil_of_le (by omega)] at behind
          cases fuel <;> cases behind

variable {program : Target.Program} {owner : Instance} {checked again current : Store ω}

lemma offset_runs {constant : Target.Constant} (current : Store ω) {start : Number}
    (evaluated : offset program owner constant checked = .ok start again) (same : SameSlots checked current) :
    ∃ after, offset program owner constant current = .ok start after ∧ Unchanged current after := by
  have ends := offset_agrees program owner constant checked current same
  have kept : Leads _ _ _ (offset program owner constant) := offset_leads (unchanged_steady current) constant
  have kept := kept current (unchanged_refl current)
  rw [evaluated] at ends
  generalize offset program owner constant current = ran at ends kept ⊢
  cases ends with
  | ok _ result _ after equal =>
    subst equal
    exact ⟨after, rfl, kept⟩

lemma write_runs {segment : Segment} {start size : Number} {body : Body}
    (evaluated : offset program owner segment.start checked = .ok start again)
    (found : segment.found? owner checked = some (body, size)) (fits : ∀ position piece,
      (position, piece) ∈ chunks segment.limit (segment.items owner) →
        Fits size (pieceOffset start position) piece.length) (within : Within checked current) :
    ∃ after, segment.write program owner current = .ok () after ∧ Within checked after := by
  refine each_runs (Within checked) _ _ (fun (position, piece) member store inside => ?_) current within
  obtain ⟨after, offsetRan, unchanged⟩ := offset_runs store evaluated (within_slots inside)
  have reached := within_trans inside (within_of_unchanged unchanged)
  -- The target is still there, with the size that was checked.
  obtain ⟨address, slot, content, place, held, sized⟩ := Segment.found_within found reached
  have read : segment.found? owner after = some (content, size) := by
    simp only [Segment.found?, place, object?, held, Option.bind_some, sized, Option.map_some]
  obtain ⟨changed, ran, inside⟩ := Body.fill_within sized (fits position piece member)
  refine ⟨after.modifyObject (segment.target owner) fun object => { object with body := changed }, ?_, ?_⟩
  · refine (bind_runs _ _ _ _ offsetRan).trans ((bind_runs _ _ after after (by rw [Segment.reach_eq, read])).trans ?_)
    exact bind_runs _ _ after after (except_runs after ran)
  · refine within_trans reached ?_
    rw [place]
    exact within_modify held ⟨rfl, inside⟩

end Link

end WasmLua.Exec
