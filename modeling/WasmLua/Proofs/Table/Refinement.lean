import WasmLua.Proofs.Link.Segments
import WasmLua.Proofs.Memory.Refinement
import WasmLua.Proofs.Table.Content

namespace WasmLua.Exec

open Store

structure Row where
  items : List Value
  limit : Nat
  bounded : items.length ≤ limit
  addressable : limit < 2 ^ 32

namespace Row

def nulls (length limit : Nat) (bounded : length ≤ limit) (addressable : limit < 2 ^ 32) : Row where
  items := List.replicate length .null
  limit := limit
  bounded := by rwa [List.length_replicate]
  addressable := addressable

def overlay (start : Nat) (new items : List Value) : List Value :=
  items.mapIdx fun index old => if start ≤ index then new.getD (index - start) old else old

lemma overlay_length {start : Nat} {new items : List Value} :
    (overlay start new items).length = items.length := List.length_mapIdx

def write? (row : Row) (start : Nat) (new : List Value) : Option Row :=
  if start + new.length ≤ row.items.length then
    some {
      items := overlay start new row.items
      limit := row.limit
      bounded := by rw [overlay_length]; exact row.bounded
      addressable := row.addressable }
  else none

def grow? (row : Row) (value : Value) (delta : Nat) : Option Row :=
  if fits : row.items.length + delta ≤ row.limit then
    some {
      items := row.items ++ List.replicate delta value
      limit := row.limit
      bounded := by rwa [List.length_append, List.length_replicate]
      addressable := row.addressable }
  else none

def content (row : Row) : Nat → Value := fun index => row.items.getD index .null

end Row

namespace Table

open Wasm (unsigned)

structure Refines (table : Table) (row : Row) : Prop where
  sized : table.size = .ofInt row.items.length
  limited : table.maximum = .ofInt row.limit
  shows : Shows table row.content

/-- The size of a table keeps to its maximum, and it has no entry at or beyond its size. -/
structure Kept (table : Table) (size limit : Nat) : Prop where
  sized : table.size = .ofInt size
  limited : table.maximum = .ofInt limit
  within : size ≤ limit
  beyond : ∀ index : Nat, size ≤ index → table.element (.ofInt index) = .null
  placed : ∀ (key : Number) (value : Value), table.elements[key]? = some value →
    ∃ index : Nat, key = .ofInt index

namespace Refines

variable {table : Table} {row : Row}

lemma kept (refines : table.Refines row) : table.Kept row.items.length row.limit where
  sized := refines.sized
  limited := refines.limited
  within := row.bounded
  beyond := by
    intro index beyond
    rw [refines.shows.element, Row.content, List.getD_eq_default _ _ beyond]
  placed := refines.shows.placed

lemma nulls (length limit : Nat) (bounded : length ≤ limit) (addressable : limit < 2 ^ 32) :
    (Table.empty (.ofInt length) (.ofInt limit)).Refines (.nulls length limit bounded addressable) where
  sized := by rw [Row.nulls, List.length_replicate]; rfl
  limited := rfl
  shows := by
    constructor
    · intro index
      rw [Row.content, Row.nulls, List.getD_eq_getElem?_getD, List.getElem?_replicate]
      have empty : (Table.empty (.ofInt length) (.ofInt limit)).element (.ofInt index) = .null := by
        simp [Table.empty, Table.element]
      rw [empty]
      split <;> rfl
    · intro key value entry
      simp [Table.empty] at entry

lemma overlay_content (fits : start + new.length ≤ items.length) (index : Nat) :
    (Row.overlay start new items).getD index .null = laid (items.getD · .null) start new index := by
  rw [Row.overlay, List.getD_eq_getElem?_getD, List.getElem?_mapIdx, laid]
  by_cases inside : index < items.length
  · rw [List.getElem?_eq_getElem inside, List.getD_eq_getElem _ _ inside]
    rfl
  · rw [List.getElem?_eq_none (by omega), List.getD_eq_default _ _ (by omega), if_pos (by omega), List.getD_eq_default _ _ (by omega)]
    rfl

lemma written (refines : table.Refines row) (base : Int) (position start : Nat) (new : List Value)
    (place : base + position = start) (fits : start + new.length ≤ row.items.length) :
    ∃ after, row.write? start new = some after ∧ (writeFrom (.ofInt base) position new table).Refines after := by
  have small := row.bounded
  have short := row.addressable
  obtain ⟨size, maximum⟩ := write_measures table (.ofInt base) position new
  rw [Row.write?, if_pos fits]
  refine ⟨_, rfl, ?_, maximum.trans refines.limited, ?_⟩
  · rw [size, refines.sized, Row.overlay_length]
  · have shows := write_shows refines.shows base position start new place (by omega)
    have same : laid row.content start new = ((Row.overlay start new row.items).getD · .null) :=
      funext fun index => (overlay_content fits index).symm
    rwa [same] at shows

lemma grown (refines : table.Refines row) (value : Value) (delta : Nat) (after : Row)
    (fits : row.grow? value delta = some after) :
    ({ (if value = .null then table else writeFrom (.ofInt row.items.length) 0 (List.replicate delta value) table) with
      size := .ofInt (row.items.length + delta : Nat) } : Table).Refines after := by
  rw [Row.grow?] at fits
  split at fits
  · rename_i room
    cases fits
    have small := row.addressable
    have content : ((row.items ++ List.replicate delta value).getD · .null)
        = laid row.content row.items.length (List.replicate delta value) := by
      funext index
      rw [laid]
      by_cases old : index < row.items.length
      · rw [if_neg (by omega), List.getD_append _ _ _ _ old]
        rfl
      · rw [if_pos (by omega), List.getD_append_right _ _ _ _ (by omega), Row.content,
          List.getD_eq_default _ _ (show row.items.length ≤ index by omega)]
    refine ⟨?_, ?_, ?_⟩
    · rw [List.length_append, List.length_replicate]
    · split
      · exact refines.limited
      · exact (write_measures table _ _ _).2.trans refines.limited
    · change Shows _ ((row.items ++ List.replicate delta value).getD · .null)
      rw [content]
      split
      · -- Nothing is written: beyond the size there was nothing but null already.
        rename_i null
        subst null
        have same : laid row.content row.items.length (List.replicate delta .null) = row.content := by
          rw [← content]
          funext index
          by_cases old : index < row.items.length
          · rw [List.getD_append _ _ _ _ old]
            rfl
          · rw [List.getD_append_right _ _ _ _ (by omega), Row.content, List.getD_eq_default _ _ (show row.items.length ≤ index by omega),
              List.getD_eq_getElem?_getD, List.getElem?_replicate]
            split <;> rfl
        rw [same]
        exact ⟨refines.shows.element, refines.shows.placed⟩
      · have shows := write_shows refines.shows row.items.length 0 row.items.length
          (List.replicate delta value) (by simp) (by rw [List.length_replicate]; omega)
        exact ⟨shows.element, shows.placed⟩
  · cases fits

end Refines

inductive Operation where
  | read (index : Int)
  | write (index : Int) (value : Value)
  | fill (index : Int) (value : Value) (count : Int)
  | grow (value : Value) (delta : Int)
  | measure
  | segment (offset : Int) (values : List Value) (few : values.length < 2 ^ 32)
  | callee (index : Int) (key : Bytes)
  | length
  | reference (index : UInt32)

inductive Answer where
  | done
  | element (value : Value)
  | size (count : Number)
  | callee (call : Callable)
  | length (count : UInt32)
  | reference (value : HostValue)

def called (key : Bytes) : Option Value → Except Fault Callable
  | none => .error (.trap .undefinedElement)
  | some .null => .error (.trap .uninitializedElement)
  | some (.ref _ _ found call) => if found = key then .ok call else .error (.trap .callTypeMismatch)
  -- No code puts these into a table of functions; they have no fields to ask for.
  | some (.number _) => .error .operand
  | some (.bool _) => .error .operand
  | some (.function _) => .error .operand
  | some _ => .error (.trap .callTypeMismatch)

def word (size : Nat) : Number := .ofInt ((size : Int).bmod (2 ^ 32))

variable {table : Table}

variable {row : Row}

lemma callee_int (refines : table.Refines row) :
    table.callee (.ofInt index) key = called key row.items[unsigned index]? := by
  rw [callee, unsigned_int, ← Wasm.unsigned_cast]
  simp only [refines.sized, Number.le_int, refines.shows.element]
  by_cases inside : unsigned index < row.items.length
  · rw [decide_eq_false (by omega), if_neg Bool.false_ne_true, Row.content,
      List.getD_eq_getElem _ _ inside, List.getElem?_eq_getElem inside]
    cases row.items[unsigned index] <;> rfl
  · rw [decide_eq_true (by omega), if_pos rfl, List.getElem?_eq_none (by omega)]
    rfl

namespace Operation

variable {ω : Type}

def onTable (place : Value) (helper : Table → Except Fault (Answer × Table)) : Embedding ω Answer := Embedding.run do
    match (← EStateM.get).table? place with
    | some table =>
      let (answer, after) ← Execution.ofExcept (helper table)
      modify fun store => store.setTable place after
      return answer
    | none => throw .operand

def run (place : Value) : Operation → Embedding ω Answer
  | .read index => onTable place fun table => do return (.element (← table.get (.ofInt index)), table)
  | .write index value => onTable place fun table => do return (.done, ← table.set (.ofInt index) value)
  | .fill index value count => onTable place fun table => do
    return (.done, ← table.fill (.ofInt index) value (.ofInt count))
  | .grow value delta => onTable place fun table => do
    let (size, grown) ← table.grow value (.ofInt delta)
    return (.size size, grown)
  | .measure => onTable place fun table => do return (.size (← I32.wrap table.size), table)
  | .segment offset values _ => onTable place fun table => do
    table.check (.ofInt offset) values.length
    return (.done, ← table.init (.ofInt offset) values)
  | .callee index key => onTable place fun table => do
    return (.callee (← table.callee (.ofInt index) key), table)
  | .length => .length <$> Table.length place
  | .reference index => .reference <$> Table.reference place index

def writing (row : Row) (start : Nat) (new : List Value) : Except Fault (Answer × Row) :=
  match row.write? start new with
  | some after => .ok (.done, after)
  | none => .error (.trap .outOfBoundsTable)

def step (row : Row) : Operation → Except Fault (Answer × Row)
  | .read index =>
    match row.items[unsigned index]? with
    | some value => .ok (.element value, row)
    | none => .error (.trap .outOfBoundsTable)
  | .write index value => writing row (unsigned index) [value]
  | .fill index value count => writing row (unsigned index) (List.replicate (unsigned count) value)
  | .grow value delta =>
    match row.grow? value (unsigned delta) with
    | some grown => .ok (.size (word row.items.length), grown)
    | none => .ok (.size (.ofInt (-1)), row)
  | .measure => .ok (.size (word row.items.length), row)
  | .segment offset values _ => writing row (unsigned offset) values
  | .callee index key => do return (.callee (← called key row.items[unsigned index]?), row)
  | .length => .ok (.length (UInt32.ofNat row.items.length), row)
  | .reference index =>
    match row.items[index.toNat]? with
    | some value => .ok (.reference (.ofReference value), row)
    | none => .error (.trap .outOfBoundsTable)

def Holds (store : Store ω) (place : Value) (row : Row) : Prop := ∃ table, store.table? place = some table ∧ table.Refines row

variable {store : Store ω}

variable {place : Value}

lemma table_found (found : store.table? place = some table) :
    ∃ address slot, place = .object address ∧ store.objects[address]? = some ⟨slot, .table table⟩ := by
  cases place with
  | object address =>
    simp only [table?, object?] at found
    split at found
    · rename_i slot content held
      cases found
      exact ⟨address, slot, rfl, held⟩
    · cases found
  | _ => simp [table?, object?] at found

lemma table_changed (after : Table)
    (found : store.table? place = some table) : (store.setTable place after).table? place = some after := by
  obtain ⟨address, slot, rfl, held⟩ := table_found found
  simp only [setTable, modifyObject, table?, object?, Array.getElem?_modify, held, if_true, Option.map_some]

def HelperAgrees (result : Except Fault (Answer × Table)) : Except Fault (Answer × Row) → Prop
  | .ok (answer, after) => ∃ changed, result = .ok (answer, changed) ∧ changed.Refines after
  | .error fault => result = .error fault

/-- What an operation did to a store is what was done to the sequence; a failure changed nothing. -/
def Agrees (before : Store ω) (place : Value) (result : EStateM.Result Failure (Store ω) Answer) : Except Fault (Answer × Row) → Prop
  | .ok (answer, after) => ∃ next, result = .ok answer next ∧ Holds next place after
  | .error fault => result = .error (.ofRaised fault.raised) before

lemma helper_agrees (found : store.table? place = some table) (agrees : HelperAgrees (helper table) expected) :
    Agrees store place (onTable place helper store) expected := by
  cases expected with
  | error fault =>
    change helper table = _ at agrees
    simp only [Agrees, onTable, Embedding.run, bind, EStateM.bind, EStateM.get, found, agrees, Execution.ofExcept,
      throw, throwThe, MonadExceptOf.throw, EStateM.throw]
  | ok outcome =>
    obtain ⟨changed, done, refines⟩ := agrees
    refine ⟨store.setTable place changed, ?_, changed, table_changed changed found, refines⟩
    simp only [onTable, Embedding.run, bind, EStateM.bind, EStateM.get, found, done, Execution.ofExcept, pure,
      EStateM.pure, modify, modifyGet, MonadStateOf.modifyGet, EStateM.modifyGet]

section Helpers

variable {table : Table} {row : Row} (refines : table.Refines row)

include refines

lemma write_agrees (base : Int) (position start : Nat)
    (place : base + position = start) (writes : helper = if start + new.length ≤ row.items.length then
        .ok (writeFrom (.ofInt base) position new table) else .error (.trap .outOfBoundsTable)) :
    HelperAgrees (do return (.done, ← helper)) (writing row start new) := by
  subst writes
  rw [writing]
  by_cases fits : start + new.length ≤ row.items.length
  · obtain ⟨after, written, kept⟩ := refines.written base position start new place fits
    rw [if_pos fits, written]
    exact ⟨_, rfl, kept⟩
  · rw [if_neg fits, Row.write?, if_neg fits]
    rfl

lemma grow_agrees (value : Value) (delta : Int) : HelperAgrees (do
        let (size, grown) ← table.grow value (.ofInt delta)
        return (.size size, grown))
      (step row (.grow value delta)) := by
  rw [grow_int refines.sized refines.limited row.addressable row.bounded, step]
  cases grown : row.grow? value (unsigned delta) with
  | none =>
    have full : ¬ row.items.length + unsigned delta ≤ row.limit := by
      intro fits
      rw [Row.grow?, dif_pos fits] at grown
      cases grown
    rw [if_neg full]
    exact ⟨table, rfl, refines⟩
  | some after =>
    have fits : row.items.length + unsigned delta ≤ row.limit := by
      by_contra full
      rw [Row.grow?, dif_neg full] at grown
      cases grown
    rw [if_pos fits]
    exact ⟨_, rfl, refines.grown value _ after grown⟩

end Helpers

section Embedder

variable {store : Store ω} {place : Value} {table : Table} {row : Row}
  (found : store.table? place = some table) (refines : table.Refines row)

include found refines

lemma length_agrees : Table.length place store = .ok (UInt32.ofNat row.items.length) store := by
  have measured : store.measure place "size" = .ofInt row.items.length := by
    obtain ⟨address, slot, rfl, held⟩ := table_found found
    simp only [Store.measure, Store.object?, held]
    exact refines.sized
  have small := row.bounded
  have short := row.addressable
  simp only [Table.length, bind, EStateM.bind, EStateM.get, measured]
  rw [Number.toUInt32, Exec.Operation.word_of_nat (by omega), UInt64.toUInt32_ofNat']
  rfl

lemma reference_agrees (index : UInt32) : Agrees store place ((Answer.reference <$> Table.reference place index) store)
      (step row (.reference index)) := by
  have small := row.bounded
  have short := row.addressable
  have size := length_agrees found refines
  have below : UInt32.ofNat row.items.length ≤ index ↔ row.items.length ≤ index.toNat := by
    rw [UInt32.le_iff_toNat_le, UInt32.toNat_ofNat_of_lt' (by rw [UInt32.size]; omega)]
  simp only [step]
  by_cases inside : index.toNat < row.items.length
  · have held : store.elementAt place index.toNat = .ok row.items[index.toNat] := by
      rw [elementAt, found]
      simp only [refines.shows.element, Row.content, List.getD_eq_getElem _ _ inside]
    rw [List.getElem?_eq_getElem inside]
    refine ⟨store, ?_, table, found, refines⟩
    simp only [Table.reference, Functor.map, EStateM.map, bind, EStateM.bind, size, below,
      if_neg (show ¬ row.items.length ≤ index.toNat by omega), EStateM.get, held, pure, EStateM.pure, Embedding.ofExcept]
  · rw [List.getElem?_eq_none (by omega)]
    simp only [Agrees, Table.reference, Functor.map, EStateM.map, bind, EStateM.bind, size, below,
      if_pos (show row.items.length ≤ index.toNat by omega), Fault.raised, Exec.Operation.trap_reported]
    rfl

end Embedder

variable (store : Store ω) (place : Value)

lemma step_agrees (holds : Holds store place row) (operation : Operation) :
    Agrees store place (operation.run place store) (operation.step row) := by
  obtain ⟨table, found, refines⟩ := holds
  cases operation with
  | read index =>
    apply helper_agrees found
    rw [get_int refines.sized, step, refines.shows.element, Row.content]
    by_cases inside : unsigned index < row.items.length
    · rw [if_pos inside, List.getElem?_eq_getElem inside, List.getD_eq_getElem _ _ inside]
      exact ⟨table, rfl, refines⟩
    · rw [if_neg inside, List.getElem?_eq_none (by omega)]
      rfl
  | write index value =>
    apply helper_agrees found
    exact write_agrees refines (unsigned index) 0 (unsigned index) (by simp) (set_int refines.sized index value)
  | fill index value count =>
    apply helper_agrees found
    refine write_agrees refines (unsigned index) 0 (unsigned index) (by simp) ?_
    rw [List.length_replicate]
    exact fill_int refines.sized index value count
  | grow value delta => exact helper_agrees found (grow_agrees refines value delta)
  | measure =>
    apply helper_agrees found
    rw [refines.sized, wrap_number]
    exact ⟨table, rfl, refines⟩
  | segment offset values few =>
    apply helper_agrees found
    have agrees := write_agrees refines (unsigned offset - 1) 1 (unsigned offset) (by omega)
      (segment_int refines.sized offset few)
    rw [bind_assoc] at agrees
    exact agrees
  | callee index key =>
    apply helper_agrees found
    rw [callee_int refines, step]
    cases called key row.items[unsigned index]? with
    | ok call => exact ⟨table, rfl, refines⟩
    | error fault => rfl
  | length =>
    refine ⟨store, ?_, table, found, refines⟩
    simp only [run, Functor.map, EStateM.map, length_agrees found refines]
  | reference index => exact reference_agrees found refines index

def runs (place : Value) : List Operation → Store ω → List (Except Failure Answer) × Store ω
  | [], store => ([], store)
  | operation :: rest, store =>
    match operation.run place store with
    | .ok answer next => (.ok answer :: (runs place rest next).1, (runs place rest next).2)
    | .error failure next => (.error failure :: (runs place rest next).1, (runs place rest next).2)

def steps : List Operation → Row → List (Except Failure Answer) × Row
  | [], row => ([], row)
  | operation :: rest, row =>
    match operation.step row with
    | .ok (answer, after) => (.ok answer :: (steps rest after).1, (steps rest after).2)
    | .error fault => (.error (.ofRaised fault.raised) :: (steps rest row).1, (steps rest row).2)

lemma runs_agree (operations : List Operation) (row : Row) (holds : Holds store place row) :
    (runs place operations store).1 = (steps operations row).1 ∧
      Holds (runs place operations store).2 place (steps operations row).2 := by
  induction operations generalizing store row with
  | nil => exact ⟨rfl, holds⟩
  | cons operation rest ih =>
    have agrees := step_agrees store place holds operation
    rw [runs, steps]
    cases expected : operation.step row with
    | error fault =>
      rw [expected] at agrees
      change operation.run place store = _ at agrees
      rw [agrees]
      exact ⟨congrArg _ (ih store row holds).1, (ih store row holds).2⟩
    | ok outcome =>
      rw [expected] at agrees
      obtain ⟨next, answered, kept⟩ := agrees
      rw [answered]
      exact ⟨congrArg _ (ih next outcome.2 kept).1, (ih next outcome.2 kept).2⟩

lemma step_grows {row after : Row} {operation : Operation} {answer : Answer}
    (stepped : operation.step row = .ok (answer, after)) : row.items.length ≤ after.items.length ∧ after.limit = row.limit := by
  have written (start : Nat) (new : List Value) (wrote : writing row start new = .ok (answer, after)) :
      row.items.length ≤ after.items.length ∧ after.limit = row.limit := by
    rw [writing, Row.write?] at wrote
    split at wrote
    · rename_i laid
      split at laid
      · cases laid
        cases wrote
        exact ⟨Nat.le_of_eq Row.overlay_length.symm, rfl⟩
      · cases laid
    · cases wrote
  have same (unchanged : row = after) : row.items.length ≤ after.items.length ∧ after.limit = row.limit := by
    subst unchanged
    exact ⟨Nat.le_refl _, rfl⟩
  cases operation with
  | read | reference =>
    rw [step] at stepped
    split at stepped
    · cases stepped
      exact same rfl
    · cases stepped
  | write | fill | segment => exact written _ _ stepped
  | measure | length =>
    cases stepped
    exact same rfl
  | grow value delta =>
    rw [step] at stepped
    split at stepped
    · rename_i grown
      rw [Row.grow?] at grown
      split at grown
      · cases grown
        cases stepped
        exact ⟨by rw [List.length_append]; exact Nat.le_add_right _ _, rfl⟩
      · cases grown
    · cases stepped
      exact same rfl
  | callee index key =>
    rw [step] at stepped
    cases reached : called key row.items[unsigned index]? with
    | ok call =>
      rw [reached] at stepped
      cases stepped
      exact same rfl
    | error fault =>
      rw [reached] at stepped
      cases stepped

lemma steps_grow (operations : List Operation) (row : Row) : row.items.length ≤ (steps operations row).2.items.length ∧
      (steps operations row).2.limit = row.limit := by
  induction operations generalizing row with
  | nil => exact ⟨Nat.le_refl _, rfl⟩
  | cons operation rest ih =>
    rw [steps]
    cases expected : operation.step row with
    | error fault => exact ih row
    | ok outcome =>
      obtain ⟨grows, same⟩ := step_grows expected
      obtain ⟨more, kept⟩ := ih outcome.2
      exact ⟨grows.trans more, kept.trans same⟩

lemma steps_append (row : Row) :
    (steps (first ++ second) row).2 = (steps second (steps first row).2).2 := by
  induction first generalizing row with
  | nil => rfl
  | cons operation rest ih =>
    rw [List.cons_append, steps, steps]
    cases operation.step row with
    | error fault => exact ih row
    | ok outcome => exact ih outcome.2

lemma new_table (imports : Imports) {initial maximum : UInt32} (bounded : initial.toNat ≤ maximum.toNat) :
    ∃ start, newTable initial maximum store = .ok (.object store.objects.size) start ∧
      Link.table imports (.created initial maximum) store = .ok (.object store.objects.size) start ∧
      start.table? (.object store.objects.size) = some (.empty (.ofInt initial.toNat) (.ofInt maximum.toNat)) := by
  have fits : ¬ maximum < initial := by
    rw [UInt32.lt_iff_toNat_lt]
    omega
  refine ⟨_, rfl, ?_, ?_⟩
  · simp only [Link.table, if_neg fits]
    rfl
  · simp [table?, object?]

lemma call_reaches {context : Context ω} {running next : Running ω}
    (refines : table.Refines row) {index : UInt32} {operand : Target.Operand} (key : Bytes) {i : Int}
    (slot results : Nat) (args : List Target.Operand)
    (reads : Code.readNumber context.owner operand running = .ok (.ofInt i) next)
    (located : Code.tableValue context.owner index next = .ok place next) (found : next.store.table? place = some table) :
    match called key row.items[unsigned i]? with
    | .ok call => Code.callee context.owner (.element index operand key) running = .ok call next
    | .error fault =>
      Code.perform context (.call slot results (.element index operand key) args) running = .error fault.raised next := by
  have opened : Code.table context.owner index next = .ok table next := by
    simp only [Code.table, bind, EStateM.bind, located, MonadState.get, getThe, MonadStateOf.get, EStateM.get, found]
    rfl
  have target : Code.callee context.owner (.element index operand key) running
      = (Run.ofExcept (called key row.items[unsigned i]?) : Run ω Callable) next := by
    simp only [Code.callee, bind, EStateM.bind, reads, opened, callee_int refines]
  cases reached : called key row.items[unsigned i]? with
  | ok call =>
    rw [reached] at target
    exact target
  | error fault =>
    rw [reached] at target
    have failed : Code.callee context.owner (.element index operand key) running = .error fault.raised next := target
    simp only [Code.perform, bind, EStateM.bind, failed]

/-- From nulls on, a table answers like a sequence of references and keeps to its measures; an
indirect call reaches the function that the sequence holds. -/
theorem table_answers_like_sequence (imports : Imports) (initial maximum : UInt32)
    (bounded : initial.toNat ≤ maximum.toNat) (operations later : List Operation) : ∃ place start,
      newTable initial maximum store = .ok place start ∧ Link.table imports (.created initial maximum) store = .ok place start ∧
      (runs place operations start).1 = (steps operations (.nulls initial.toNat maximum.toNat bounded maximum.toNat_lt)).1 ∧ ∃ table row,
        (runs place operations start).2.table? place = some table ∧
        (steps operations (.nulls initial.toNat maximum.toNat bounded maximum.toNat_lt)).2 = row ∧
        table.Refines row ∧ table.Kept row.items.length maximum.toNat ∧ row.items.length ≤ (steps (operations ++ later)
          (.nulls initial.toNat maximum.toNat bounded maximum.toNat_lt)).2.items.length ∧
        (∀ (operation : Operation) failure after, operation.run place (runs place operations start).2 = .error failure after →
            after = (runs place operations start).2) ∧
        ∀ (context : Context ω) (running next : Running ω) (index : UInt32) (operand : Target.Operand)
          (key : Bytes) (i : Int) (slot results : Nat) (args : List Target.Operand),
          Code.readNumber context.owner operand running = .ok (.ofInt i) next →
          Code.tableValue context.owner index next = .ok place next → next.store.table? place = some table →
          match called key row.items[unsigned i]? with
          | .ok call => Code.callee context.owner (.element index operand key) running = .ok call next
          | .error fault =>
            Code.perform context (.call slot results (.element index operand key) args) running
              = .error fault.raised next := by
  obtain ⟨start, made, linked, found⟩ := new_table store imports bounded
  obtain ⟨answers, table, held, refines⟩ := runs_agree start (.object store.objects.size) operations
    (.nulls initial.toNat maximum.toNat bounded maximum.toNat_lt) ⟨_, found, .nulls _ _ _ _⟩
  obtain ⟨-, limited⟩ := steps_grow operations
    (.nulls initial.toNat maximum.toNat bounded maximum.toNat_lt)
  refine ⟨_, start, made, linked, answers, table, _, held, rfl, refines, ?_, ?_, ?_, ?_⟩
  · have kept := refines.kept
    rw [limited] at kept
    exact kept
  · rw [steps_append]
    exact (steps_grow later _).1
  · intro operation failure after failed
    have agrees := step_agrees _ _ ⟨table, held, refines⟩ operation
    rw [failed] at agrees
    generalize operation.step _ = expected at agrees
    cases expected with
    | ok outcome =>
      obtain ⟨next, answered, -⟩ := agrees
      cases answered
    | error fault =>
      cases agrees
      rfl
  · intro context running next index operand key i slot results args reads located same
    exact call_reaches _ refines key slot results args reads located same

/-- A reference is stored at the last index of a table that then grows, and called under its own and
another key. -/
theorem grown_table_called : ∃ place start, newTable 1 2 (Store.empty ()) = .ok place start ∧
      Link.table [] (.created 1 2) (Store.empty ()) = .ok place start ∧
      (runs place [.callee (-1) [0x70], .write 0 (.ref 0 3 [0x70] (.unbound 3)), .grow .null 1, .grow .null 1,
          .callee 0 [0x70], .callee 0 [0x72], .callee 1 [0x70], .fill 1 .null 2] start).1
        = (steps [.callee (-1) [0x70], .write 0 (.ref 0 3 [0x70] (.unbound 3)), .grow .null 1, .grow .null 1,
          .callee 0 [0x70], .callee 0 [0x72], .callee 1 [0x70], .fill 1 .null 2] (.nulls 1 2 (by decide) (by decide))).1 := by
  obtain ⟨place, start, made, linked, answers, _⟩ :=
    table_answers_like_sequence (Store.empty ()) [] 1 2 (by decide)
      [.callee (-1) [0x70], .write 0 (.ref 0 3 [0x70] (.unbound 3)), .grow .null 1, .grow .null 1,
        .callee 0 [0x70], .callee 0 [0x72], .callee 1 [0x70], .fill 1 .null 2] []
  exact ⟨place, start, made, linked, answers⟩

end Operation

end Table

end WasmLua.Exec
