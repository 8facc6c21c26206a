import WasmLua.Exec.Object
import WasmLua.Proofs.Memory.Bulk
import WasmLua.Proofs.Text.Strings

namespace WasmLua.Exec

open Number
open Wasm Memory
open Wasm (little Linear)

namespace Memory

structure Refines (memory : Memory) (image : Linear) : Prop where
  paged : memory.pages = .ofInt image.pages
  sized : memory.size = .ofInt image.bytes.length
  limited : memory.maximum = .ofInt image.limit
  shows : Shows memory image.bytes.length (image.bytes.getD · 0)

lemma writeFrom_measures (memory : Memory) (index : Nat) :
    (writeFrom base index bytes memory).measures = memory.measures := by
  induction bytes generalizing index memory with
  | nil => rfl
  | cons first rest ih => exact ih _ (index + 1)

lemma window_read {image : Linear} {start width : Nat} : image.read? start width =
      if start + width ≤ image.bytes.length then some (window (image.bytes.getD · 0) start width)
      else none := by
  rw [Linear.read?]
  split
  · rename_i fits
    congr 1
    apply List.ext_getElem
    · simp [window]
      omega
    · intro index left right
      rw [window, List.length_map, List.length_range'] at right
      simp [window, List.getElem_take, List.getElem_drop, List.getElem?_eq_getElem (show start + index < image.bytes.length by omega)]
  · rfl

/-- The measures of a memory agree, and all that it stores are bytes below its size. -/
structure Kept (memory : Memory) (pages limit : Nat) : Prop where
  paged : memory.pages = .ofInt pages
  sized : memory.size = .ofInt (pages * 65536 : Nat)
  limited : memory.maximum = .ofInt limit
  within : pages ≤ limit
  stored : ∀ key value : Number, memory.data[key]? = some value →
    ∃ index byte : Nat, index < pages * 65536 ∧ byte < 256 ∧ key = .ofInt index ∧ value = .ofInt byte

namespace Refines

variable {memory : Memory} {image : Linear}

lemma kept (refines : memory.Refines image) : memory.Kept image.pages image.limit where
  paged := refines.paged
  sized := by rw [refines.sized, image.sized, pageSize]
  limited := refines.limited
  within := image.bounded
  stored := by
    intro key value entry
    obtain ⟨index, inside, named, held⟩ := refines.shows.stored key value entry
    rw [image.sized] at inside
    exact ⟨index, _, inside, UInt8.toNat_lt _, named, held⟩

lemma zeros (pages limit : Nat) (bounded : pages ≤ limit) (addressable : limit ≤ 65536) :
    (empty (.ofInt pages) (.ofInt limit)).Refines (.zeros pages limit bounded addressable) where
  paged := rfl
  sized := by
    rw [empty, mul_int (by rw [pageSize]; omega), Linear.zeros, List.length_replicate]
    push_cast
    rfl
  limited := rfl
  shows := by
    refine ⟨?_, ?_⟩
    · intro key value entry
      rw [empty, Std.HashMap.getElem?_empty] at entry
      cases entry
    · intro index _ _
      rw [Linear.zeros, List.getD_eq_getElem?_getD, List.getElem?_replicate]
      split <;> rfl

lemma replaced (refines : memory.Refines image) (start : Nat) (new : Bytes)
    (fits : start + new.length ≤ image.bytes.length) (changed : Memory) (kept : changed.measures = memory.measures)
    (shows : Shows changed image.bytes.length (patched (image.bytes.getD · 0) start new)) :
    ∃ after, image.write? start new = some after ∧ changed.Refines after := by
  rw [Linear.write?, dif_pos fits]
  refine ⟨_, rfl, ?_⟩
  have content : patched (image.bytes.getD · 0) start new = ((splice start new image.bytes).getD · 0) := by
    funext index
    exact (splice_content index fits).symm
  have length : (splice start new image.bytes).length = image.bytes.length := by
    simp only [splice, List.length_append, List.length_take, List.length_drop]
    omega
  rw [content] at shows
  simp only [measures, Prod.mk.injEq] at kept
  exact ⟨kept.1.trans refines.paged, (kept.2.1.trans refines.sized).trans (by rw [length]),
    kept.2.2.trans refines.limited, by rw [length]; exact shows⟩

lemma written (refines : memory.Refines image) (base : Int) (index start : Nat) (new : Bytes)
    (place : base + index = start) (fits : start + new.length ≤ image.bytes.length) :
    ∃ after, image.write? start new = some after ∧ (writeFrom (.ofInt base) index new memory).Refines after :=
  refines.replaced start new fits _ (writeFrom_measures memory _)
    (refines.shows.writeFrom base index start new place fits image.length_le)

lemma grown (refines : memory.Refines image) (delta : Nat) (after : Linear) (fits : image.grow? delta = some after) :
    ({ memory with
      pages := .ofInt (image.pages + delta : Nat)
      size := .ofInt ((image.pages + delta) * pageSize : Nat) } : Memory).Refines after := by
  rw [Linear.grow?] at fits
  split at fits
  · injection fits with fits
    subst fits
    refine ⟨rfl, ?_, refines.limited, ?_, ?_⟩
    · rw [List.length_append, List.length_replicate, image.sized, Nat.add_mul]
    · intro key value entry
      obtain ⟨index, inside, named, held⟩ := refines.shows.stored key value entry
      refine ⟨index, ?_, named, ?_⟩
      · rw [List.length_append]
        omega
      · rw [held, List.getD_append _ _ _ _ inside]
    · intro index inside missing
      by_cases old : index < image.bytes.length
      · rw [List.getD_append _ _ _ _ old]
        exact refines.shows.absent index old missing
      · rw [List.getD_append_right _ _ _ _ (by omega), List.getD_eq_getElem?_getD, List.getElem?_replicate]
        split <;> rfl
  · cases fits

end Refines

end Memory

inductive Operation where
  | load (access : { access : Wasm.Load // access ∈ Wasm.Load.all }) (address : Int) (offset : UInt32)
  | store (access : Wasm.Store) (address : Int) (offset : UInt32) (identity : Nat)
      (word : BitVec access.type.bits)
  | grow (delta : Int)
  | fill (target value count : Int)
  | copy (target source count : Int)
  | segment (offset : Int) (bytes : Bytes) (few : bytes.length < 2 ^ 32)
  | read (offset : UInt32) (length : Nat)
  | readWord (offset : UInt32)
  | write (offset : UInt32) (bytes : Bytes)

inductive Answer where
  | done
  | made (value : Made)
  | pages (count : Number)
  | bytes (content : Bytes)
  | word (value : UInt32)

namespace Operation

variable {ω : Type}

def onMemory (place : Value) (helper : Memory → Except Fault (Answer × Memory)) : Embedding ω Answer := Embedding.run do
    match (← get).memory? place with
    | some memory =>
      let (answer, after) ← Execution.ofExcept (helper memory)
      modify fun store => store.modifyMemory place fun _ => after
      return answer
    | none => throw .operand

def run (place : Value) : Operation → Embedding ω Answer
  | .load access address offset => onMemory place fun memory => do
    return (.made (← memory.load (.number .negZero) access (.ofInt address) offset), memory)
  | .store access address offset identity word => onMemory place fun memory => do
    let change ← Memory.store memory.size access (.ofInt address) offset (.ofWord _ identity word)
    return (.done, change memory)
  | .grow delta => onMemory place fun memory =>
    let (pages, grown) := memory.grow (.ofInt delta)
    return (.pages pages, grown)
  | .fill target value count => onMemory place fun memory => do
    let change ← Memory.fill memory.size (.ofInt target) (.number (.ofInt value)) (.ofInt count)
    return (.done, change memory)
  | .copy target source count => onMemory place fun memory => do
    let change ← Memory.copy memory.size (.ofInt target) (.ofInt source) (.ofInt count)
    return (.done, change memory)
  | .segment offset bytes _ => onMemory place fun memory => do
    check memory.size (.ofInt offset) bytes.length
    let change ← init (.ofInt offset) bytes
    return (.done, change memory)
  | .read offset length => .bytes <$> readBytes place offset length
  | .readWord offset => .word <$> Memory.readWord place offset
  | .write offset bytes => do
    writeBytes place offset bytes
    return .done

def step (image : Linear) : Operation → Option (Answer × Linear)
  | .load access address offset => do
    let bytes ← image.read? (unsigned address + offset.toNat) access.val.width
    return (.made (.ofWord _ (access.val.word bytes)), image)
  | .store access address offset _ word => do
    return (.done, ← image.write? (unsigned address + offset.toNat) (storedBytes access word))
  | .grow delta =>
    match image.grow? (unsigned delta) with
    | some grown => return (.pages (.ofInt image.pages), grown)
    | none => return (.pages (.ofInt (-1)), image)
  | .fill target value count => do
    let byte := UInt8.ofNat (value % 256).toNat
    return (.done, ← image.write? (unsigned target) (List.replicate (unsigned count) byte))
  | .copy target source count => do
    let bytes ← image.read? (unsigned source) (unsigned count)
    return (.done, ← image.write? (unsigned target) bytes)
  | .segment offset bytes _ => do return (.done, ← image.write? (unsigned offset) bytes)
  | .read offset length => do return (.bytes (← image.read? offset.toNat length), image)
  | .readWord offset => do
    return (.word (UInt32.ofNat (little (← image.read? offset.toNat 4))), image)
  | .write offset bytes => do return (.done, ← image.write? offset.toNat bytes)

def Holds (store : Store ω) (place : Value) (image : Linear) : Prop :=
  ∃ memory, store.memory? place = some memory ∧ memory.Refines image

lemma memory_changed {store : Store ω} {place : Value} {memory : Memory}
    (found : store.memory? place = some memory) {change : Memory → Memory} :
    (store.modifyMemory place change).memory? place = some (change memory) := by
  cases place with
  | object address =>
    rw [Store.memory?, Store.object?] at found
    split at found
    · rename_i slot content entry
      injection found with found
      subst found
      rw [Store.memory?, Store.object?, Store.modifyMemory, Store.modifyObject]
      simp only [Array.getElem?_modify, entry]
      simp
    · cases found
  | _ => cases found

lemma trap_reported : Failure.ofRaised trap.raised = trapFailure trap := by
  have marked : Failure.afterMark? trapMark (Bytes.ofString (trapMark ++ trap.text)) = some (Bytes.ofString trap.text) := by
    rw [Bytes.ofString_append]
    simp [Failure.afterMark?]
  rw [Trap.raised, Failure.ofRaised, Failure.ofText, marked]
  rfl

def HelperAgrees (result : Except Fault (Answer × Memory)) : Option (Answer × Linear) → Prop
  | some (answer, after) => ∃ changed, result = .ok (answer, changed) ∧ changed.Refines after
  | none => result = .error (.trap .outOfBoundsMemory)

/-- What an operation did to a store is what was done to the array; a trap changed nothing. -/
def Agrees (before : Store ω) (place : Value) (result : EStateM.Result Failure (Store ω) Answer) : Option (Answer × Linear) → Prop
  | some (answer, after) => ∃ next, result = .ok answer next ∧ Holds next place after
  | none => result = .error (trapFailure .outOfBoundsMemory) before

lemma helper_agrees {store : Store ω} {place : Value} {memory : Memory}
    (found : store.memory? place = some memory) {helper : Memory → Except Fault (Answer × Memory)}
    {expected : Option (Answer × Linear)} (agrees : HelperAgrees (helper memory) expected) :
    Agrees store place (onMemory place helper store) expected := by
  cases expected with
  | none =>
    change helper memory = _ at agrees
    simp only [Agrees, onMemory, Embedding.run, bind, EStateM.bind, get, getThe, MonadStateOf.get,
      EStateM.get, found, agrees, Execution.ofExcept, throw, throwThe, MonadExceptOf.throw, EStateM.throw, Fault.raised, trap_reported]
  | some outcome =>
    obtain ⟨changed, done, refines⟩ := agrees
    refine ⟨store.modifyMemory place fun _ => changed, ?_, changed, memory_changed found, refines⟩
    simp only [onMemory, Embedding.run, bind, EStateM.bind, get, getThe, MonadStateOf.get, EStateM.get,
      found, done, Execution.ofExcept, pure, EStateM.pure, modify, modifyGet, MonadStateOf.modifyGet, EStateM.modifyGet]

variable {new : Bytes} {n : Nat} {after : Linear}

section Helpers

variable {memory : Memory} {image : Linear} (refines : memory.Refines image)

include refines in
lemma write_agrees {helper : Except Fault (Memory → Memory)} (base : Int) (index : Nat) {start : Nat}
    (place : base + index = start) (writes : helper = if start + new.length ≤ image.bytes.length then
        .ok (writeFrom (.ofInt base) index new) else .error (.trap .outOfBoundsMemory)) :
    HelperAgrees (do let change ← helper; return (.done, change memory)) (do return (.done, ← image.write? start new)) := by
  subst writes
  by_cases fits : start + new.length ≤ image.bytes.length
  · obtain ⟨after, written, kept⟩ := refines.written base index start new place fits
    rw [if_pos fits, written]
    exact ⟨_, rfl, kept⟩
  · rw [if_neg fits, Linear.write?, dif_neg fits]
    rfl

include refines in
lemma copy_agrees (target source count : Int) : HelperAgrees (do
        let change ← Memory.copy memory.size (.ofInt target) (.ofInt source) (.ofInt count)
        return (.done, change memory))
      (do
        let bytes ← image.read? (unsigned source) (unsigned count)
        return (.done, ← image.write? (unsigned target) bytes)) := by
  have length : (window (image.bytes.getD · 0) (unsigned source) (unsigned count)).length = unsigned count := by simp [window]
  have moved := copied_moved none memory (unsigned target) (unsigned source)
    (unsigned count) (by have := unsigned_lt target; have := unsigned_lt count; omega)
    (by have := unsigned_lt source; have := unsigned_lt count; omega)
  rw [refines.sized, Memory.copy, copyFrom_int rfl, window_read]
  by_cases held : unsigned source + unsigned count ≤ image.bytes.length
  · rw [if_pos held]
    by_cases fits : unsigned target + unsigned count ≤ image.bytes.length
    · obtain ⟨after, written, kept⟩ := refines.replaced (unsigned target) _ (by rwa [length])
        (copied none (unsigned target) (unsigned source) (unsigned count) memory)
        moved.measured (by rw [patched_window]; exact moved.shows held fits refines.shows refines.shows)
      rw [if_pos ⟨held, fits⟩]
      change HelperAgrees _ ((image.write? _ _).bind _)
      rw [written]
      exact ⟨_, rfl, kept⟩
    · rw [if_neg fun both => fits both.2]
      change HelperAgrees _ ((image.write? _ _).bind _)
      rw [Linear.write?, dif_neg (by rwa [length])]
      rfl
  · rw [if_neg held, if_neg fun both => held both.1]
    rfl

include refines in
lemma grow_agrees (delta : Int) : HelperAgrees (let (pages, grown) := memory.grow (.ofInt delta)
        return (.pages pages, grown))
      (match image.grow? (unsigned delta) with
        | some grown => return (.pages (.ofInt image.pages), grown)
        | none => return (.pages (.ofInt (-1)), image)) := by
  rw [grow_int delta refines.paged refines.limited image.bounded image.addressable]
  cases grown : image.grow? (unsigned delta) with
  | none =>
    have full : ¬ image.pages + unsigned delta ≤ image.limit := by
      intro fits
      rw [Linear.grow?, dif_pos fits] at grown
      cases grown
    rw [if_neg full]
    exact ⟨memory, rfl, refines⟩
  | some after =>
    have fits : image.pages + unsigned delta ≤ image.limit := by
      by_contra full
      rw [Linear.grow?, dif_neg full] at grown
      cases grown
    rw [if_pos fits]
    exact ⟨_, rfl, refines.grown _ after grown⟩

end Helpers

section Embedder

lemma word_of_nat (small : n < 2 ^ 63) : (ofInt n).toInt64.toUInt64 = UInt64.ofNat n := by
  have whole : ((n : Int) : Rat).num.tdiv ((n : Int) : Rat).den = n := by simp
  have fits : -0x8000000000000000 ≤ (n : Int) ∧ (n : Int) < 0x8000000000000000 := by omega
  simp only [toInt64, ofInt, whole, if_pos fits]
  exact UInt64.eq_of_toBitVec_eq rfl

lemma size_of_nat (small : n < 2 ^ 63) : (ofInt n).toUInt64.toNat = n := by
  have low : (ofInt n).lt (.ofInt 0x8000000000000000) = true := by
    rw [lt_int]
    exact decide_eq_true (by omega)
  simp only [toUInt64, low, if_true]
  rw [word_of_nat small, UInt64.toNat_ofNat']
  omega

lemma byte_of_number {byte : UInt8} : (ofInt byte.toNat).toInt64.toUInt64.toUInt8 = byte := by
  have small := byte.toNat_lt
  rw [word_of_nat (by omega)]
  simp

variable (store : Store ω) {place : Value} {memory : Memory} {image : Linear}
  (found : store.memory? place = some memory) (refines : memory.Refines image)

include found in
lemma size_measured : store.measure place "size" = memory.size := by
  rw [Store.memory?] at found
  split at found
  · rename_i entry
    injection found with found
    subst found
    rw [Store.measure, entry]
    rfl
  · cases found

include found refines in
lemma bound_agrees (offset : UInt32) (length : Nat) : bound place offset length store =
      if offset.toNat + length ≤ image.bytes.length then .ok () store
      else .error (trapFailure .outOfBoundsMemory) store := by
  have small := image.length_le
  have size : (store.measure place "size").toUInt64.toNat = image.bytes.length := by
    rw [size_measured store found, refines.sized]
    exact size_of_nat (by omega)
  simp only [bound, sizes, bind, EStateM.bind, get, getThe, MonadStateOf.get, EStateM.get, pure, EStateM.pure, size]
  by_cases fits : offset.toNat + length ≤ image.bytes.length
  · rw [if_pos fits, if_neg (by omega)]
    rfl
  · rw [if_neg fits, if_pos (by omega)]
    rfl

include found refines in
lemma byte_agrees {address : Nat} (inside : address < image.bytes.length) :
    store.byteAt place address = .ok (image.bytes.getD address 0) := by
  rw [Store.byteAt, found]
  simp only [refines.shows.byte address inside, byte_of_number]

lemma bytes_read {action : Nat → Except Failure UInt8} {content : Nat → UInt8} {places : List Nat}
    (held : ∀ index ∈ places, action index = .ok (content index)) :
    (places.mapM fun index => (Embedding.ofExcept (action index) : Embedding ω UInt8)) store
      = .ok (places.map content) store := by
  induction places with
  | nil => rfl
  | cons first rest ih =>
    have tail := ih fun index member => held index (List.mem_cons_of_mem _ member)
    have head : (Embedding.ofExcept (action first) : Embedding ω UInt8) store = .ok (content first) store := by
      rw [held first List.mem_cons_self]
      rfl
    rw [List.mapM_cons]
    simp only [bind, EStateM.bind, head, tail]
    rfl

include found refines in
lemma read_agrees (offset : UInt32) (length : Nat) : readBytes place offset length store =
      match image.read? offset.toNat length with
      | some bytes => .ok bytes store
      | none => .error (trapFailure .outOfBoundsMemory) store := by
  have bounded := bound_agrees store found refines offset length
  rw [window_read, readBytes]
  simp only [bind, EStateM.bind, get, getThe, MonadStateOf.get, EStateM.get]
  by_cases fits : offset.toNat + length ≤ image.bytes.length
  · rw [if_pos fits] at bounded ⊢
    rw [bounded, window, List.range'_eq_map_range, List.map_map]
    refine bytes_read store fun index inside => ?_
    rw [List.mem_range] at inside
    exact byte_agrees store found refines (by omega)
  · rw [if_neg fits] at bounded ⊢
    rw [bounded]

lemma word_read : bytes.foldr (fun byte word => word * 256 + byte.toUInt32) 0 = UInt32.ofNat (little bytes) := by
  induction bytes with
  | nil => rfl
  | cons first rest ih =>
    apply UInt32.toNat_inj.mp
    rw [List.foldr_cons, ih, little]
    simp
    omega

include found refines in
lemma written_agrees (offset : UInt32) (bytes : Bytes) :
    Agrees store place ((do writeBytes place offset bytes; return Answer.done) store)
      (do return (.done, ← image.write? offset.toNat bytes)) := by
  have bounded := bound_agrees store found refines offset bytes.length
  by_cases fits : offset.toNat + bytes.length ≤ image.bytes.length
  · obtain ⟨after, written, kept⟩ := refines.written offset.toNat 0 offset.toNat bytes (by simp) fits
    rw [if_pos fits] at bounded
    rw [written]
    refine ⟨store.modifyMemory place (writeFrom (.ofInt offset.toNat) 0 bytes), ?_, _, memory_changed found, kept⟩
    simp only [writeBytes, bind, EStateM.bind, bounded, get, getThe, MonadStateOf.get, EStateM.get,
      Store.writeBytes, found, Embedding.ofExcept]
    rfl
  · rw [if_neg fits] at bounded
    rw [Linear.write?, dif_neg fits]
    simp only [writeBytes, bind, EStateM.bind, bounded]
    rfl

end Embedder

variable (store : Store ω) (place : Value)

lemma step_agrees {image : Linear} (holds : Holds store place image) (operation : Operation) :
    Agrees store place (operation.run place store) (operation.step image) := by
  obtain ⟨memory, found, refines⟩ := holds
  cases operation with
  | load access address offset =>
    apply helper_agrees found
    rw [load_word refines.shows refines.sized image.length_le address offset access.property, step, window_read, start]
    split
    · exact ⟨memory, rfl, refines⟩
    · rfl
  | store access address offset identity word =>
    apply helper_agrees found
    apply write_agrees refines (start address offset) 0
    · simp [start]
    · rw [refines.sized, store_word, storedBytes, little_bytes_length]
      rfl
  | grow delta => exact helper_agrees found (grow_agrees refines delta)
  | fill target value count =>
    apply helper_agrees found
    apply write_agrees refines (unsigned target) 0
    · simp
    · rw [refines.sized, fill_int, List.length_replicate]
  | copy target source count =>
    exact helper_agrees found (copy_agrees refines target source count)
  | segment offset bytes few =>
    apply helper_agrees found
    have writes := segment_int image.bytes.length offset few
    rw [← refines.sized] at writes
    have agrees := write_agrees refines _ 1 (by omega) writes
    rw [bind_assoc] at agrees
    exact agrees
  | read offset length =>
    have read := read_agrees store found refines offset length
    simp only [run, step]
    cases held : image.read? offset.toNat length with
    | none =>
      rw [held] at read
      simp only [Functor.map, EStateM.map, read]
      rfl
    | some bytes =>
      rw [held] at read
      refine ⟨store, ?_, memory, found, refines⟩
      simp only [Functor.map, EStateM.map, read]
  | readWord offset =>
    have read := read_agrees store found refines offset 4
    simp only [run, step, Memory.readWord]
    cases held : image.read? offset.toNat 4 with
    | none =>
      rw [held] at read
      simp only [Functor.map, EStateM.map, bind, EStateM.bind, read]
      rfl
    | some bytes =>
      rw [held] at read
      refine ⟨store, ?_, memory, found, refines⟩
      simp only [Functor.map, EStateM.map, bind, EStateM.bind, read, ← word_read]
      rfl
  | write offset bytes => exact written_agrees store found refines offset bytes

def runs (place : Value) : List Operation → Store ω → List (Except Failure Answer) × Store ω
  | [], store => ([], store)
  | operation :: rest, store =>
    match operation.run place store with
    | .ok answer next => (.ok answer :: (runs place rest next).1, (runs place rest next).2)
    | .error failure next => (.error failure :: (runs place rest next).1, (runs place rest next).2)

def steps : List Operation → Linear → List (Except Failure Answer) × Linear
  | [], image => ([], image)
  | operation :: rest, image =>
    match operation.step image with
    | some (answer, after) => (.ok answer :: (steps rest after).1, (steps rest after).2)
    | none =>
      (.error (trapFailure .outOfBoundsMemory) :: (steps rest image).1, (steps rest image).2)

lemma runs_agree (operations : List Operation) (image : Linear) (holds : Holds store place image) :
    (runs place operations store).1 = (steps operations image).1 ∧
      Holds (runs place operations store).2 place (steps operations image).2 := by
  induction operations generalizing store image with
  | nil => exact ⟨rfl, holds⟩
  | cons operation rest ih =>
    have agrees := step_agrees store place holds operation
    rw [runs, steps]
    cases expected : operation.step image with
    | none =>
      rw [expected] at agrees
      change operation.run place store = _ at agrees
      rw [agrees]
      exact ⟨congrArg _ (ih store image holds).1, (ih store image holds).2⟩
    | some outcome =>
      rw [expected] at agrees
      obtain ⟨next, answered, kept⟩ := agrees
      rw [answered]
      exact ⟨congrArg _ (ih next outcome.2 kept).1, (ih next outcome.2 kept).2⟩

lemma write_pages {image : Linear} {start : Nat} (written : image.write? start new = some after) :
    image.pages = after.pages ∧ after.limit = image.limit := by
  rw [Linear.write?] at written
  split at written
  · injection written with written
    rw [← written]
    exact ⟨rfl, rfl⟩
  · cases written

lemma step_pages {image : Linear} {operation : Operation} {answer : Answer}
    (stepped : operation.step image = some (answer, after)) : image.pages ≤ after.pages ∧ after.limit = image.limit := by
  have kept (start : Nat) (new : Bytes) (written : image.write? start new = some after) :
      image.pages ≤ after.pages ∧ after.limit = image.limit :=
    ⟨(write_pages written).1.le, (write_pages written).2⟩
  cases operation with
  | load | read | readWord =>
    obtain ⟨bytes, _, same⟩ := Option.bind_eq_some_iff.mp stepped
    cases same
    exact ⟨Nat.le_refl _, rfl⟩
  | store | fill | segment | write =>
    obtain ⟨other, written, same⟩ := Option.bind_eq_some_iff.mp stepped
    cases same
    exact kept _ _ written
  | grow delta =>
    rw [step] at stepped
    cases grown : image.grow? (unsigned delta) with
    | none =>
      rw [grown] at stepped
      cases stepped
      exact ⟨Nat.le_refl _, rfl⟩
    | some other =>
      rw [grown] at stepped
      cases stepped
      rw [Linear.grow?] at grown
      split at grown
      · cases grown
        exact ⟨Nat.le_add_right _ _, rfl⟩
      · cases grown
  | copy target source count =>
    obtain ⟨bytes, _, rest⟩ := Option.bind_eq_some_iff.mp stepped
    obtain ⟨other, written, same⟩ := Option.bind_eq_some_iff.mp rest
    cases same
    exact kept _ _ written

lemma steps_pages (operations : List Operation) (image : Linear) :
    image.pages ≤ (steps operations image).2.pages ∧ (steps operations image).2.limit = image.limit := by
  induction operations generalizing image with
  | nil => exact ⟨Nat.le_refl _, rfl⟩
  | cons operation rest ih =>
    rw [steps]
    cases expected : operation.step image with
    | none => exact ih image
    | some outcome =>
      obtain ⟨grows, same⟩ := step_pages expected
      obtain ⟨more, kept⟩ := ih outcome.2
      exact ⟨grows.trans more, kept.trans same⟩

lemma steps_append (image : Linear) :
    (steps (first ++ second) image).2 = (steps second (steps first image).2).2 := by
  induction first generalizing image with
  | nil => rfl
  | cons operation rest ih =>
    rw [List.cons_append, steps, steps]
    cases operation.step image with
    | none => exact ih image
    | some outcome => exact ih outcome.2

lemma new_memory (imports : Imports) {initial maximum : UInt32} (bounded : initial.toNat ≤ maximum.toNat) :
    ∃ start, newMemory initial maximum store = .ok (.object store.objects.size) start ∧
      Link.memory imports (.created initial maximum) store = .ok (.object store.objects.size) start ∧
      start.memory? (.object store.objects.size) = some (.empty (.ofInt initial.toNat) (.ofInt maximum.toNat)) := by
  have fits : ¬ maximum < initial := by
    rw [UInt32.lt_iff_toNat_lt]
    omega
  refine ⟨_, rfl, ?_, ?_⟩
  · simp only [Link.memory, if_neg fits]
    rfl
  · simp [Store.memory?, Store.object?]

/-- From zeros on, a memory answers like an array of bytes and keeps to its measures. -/
theorem memory_answers_like_bytes (imports : Imports) (initial maximum : UInt32)
    (bounded : initial.toNat ≤ maximum.toNat) (addressable : maximum.toNat ≤ 65536)
    (operations later : List Operation) : ∃ place start, newMemory initial maximum store = .ok place start ∧
      Link.memory imports (.created initial maximum) store = .ok place start ∧ (runs place operations start).1
        = (steps operations (.zeros initial.toNat maximum.toNat bounded addressable)).1 ∧ ∃ memory image,
        (runs place operations start).2.memory? place = some memory ∧
        (steps operations (.zeros initial.toNat maximum.toNat bounded addressable)).2 = image ∧
        memory.Refines image ∧ memory.Kept image.pages maximum.toNat ∧ image.pages ≤
          (steps (operations ++ later) (.zeros initial.toNat maximum.toNat bounded addressable)).2.pages := by
  obtain ⟨start, made, linked, found⟩ := new_memory store imports bounded
  obtain ⟨answers, memory, held, refines⟩ := runs_agree start (.object store.objects.size) operations
    (.zeros initial.toNat maximum.toNat bounded addressable) ⟨_, found, .zeros _ _ bounded addressable⟩
  have limited := (steps_pages operations (.zeros initial.toNat maximum.toNat bounded addressable)).2
  refine ⟨_, start, made, linked, answers, memory, _, held, rfl, refines, ?_, ?_⟩
  · have kept := refines.kept
    rw [limited] at kept
    exact kept
  · rw [steps_append]
    exact (steps_pages later _).1

theorem memory_answers_like_bytes_boundary : ∃ place start, newMemory 1 2 (Store.empty ()) = .ok place start ∧
      Link.memory [] (.created 1 2) (Store.empty ()) = .ok place start ∧
      (runs place [.store (.full (.int .i32)) 65534 0 0 (0x01020304#32), .grow 1, .store (.full (.int .i32)) 65534 0 0 (0x01020304#32),
          .load ⟨.narrow .i64 .w16 .signed, by decide⟩ 65535 0, .copy 65533 65534 4] start).1
        = (steps [.store (.full (.int .i32)) 65534 0 0 (0x01020304#32), .grow 1, .store (.full (.int .i32)) 65534 0 0 (0x01020304#32),
            .load ⟨.narrow .i64 .w16 .signed, by decide⟩ 65535 0, .copy 65533 65534 4] (.zeros 1 2 (by decide) (by decide))).1 := by
  obtain ⟨place, start, made, linked, answers, _⟩ :=
    memory_answers_like_bytes (Store.empty ()) [] 1 2 (by decide) (by decide)
      [.store (.full (.int .i32)) 65534 0 0 (0x01020304#32), .grow 1, .store (.full (.int .i32)) 65534 0 0 (0x01020304#32),
        .load ⟨.narrow .i64 .w16 .signed, by decide⟩ 65535 0, .copy 65533 65534 4] []
  exact ⟨place, start, made, linked, answers⟩

end Operation

namespace Memory

variable {ω : Type} {memory : Memory} {image : Linear}

/-- Where `fits` holds the call leaves at its place a memory with the bytes of `content` and the measures of the one
before, and changes no other object; elsewhere it traps and changes nothing. -/
def Changes (ω : Type) (memory : Memory) (size : Nat) (fits : Prop) (content : Nat → UInt8)
    (helper : Number → Except Fault (Memory → Memory)) : Prop :=
  ∀ (owner : Owner) (state : Running ω) (place : Value), Code.memoryValue owner state = .ok place state →
    state.store.memory? place = some memory →
    (fits → ∃ objects after, Code.changeMemory owner helper state
        = .ok () { state with store := { state.store with objects := objects } } ∧
      Store.memory? { state.store with objects := objects } place = some after ∧
      after.measures = memory.measures ∧ after.Shows size content ∧
      ∀ address : Nat, place ≠ .object address → objects[address]? = state.store.objects[address]?) ∧
    (¬fits → Code.changeMemory owner helper state = .error Trap.outOfBoundsMemory.raised state)

lemma change_memory_runs {owner : Owner} {state : Running ω} {place : Value} {helper : Number → Except Fault (Memory → Memory)}
    (located : Code.memoryValue owner state = .ok place state) (found : state.store.memory? place = some memory) :
    Code.changeMemory owner helper state = (do
      let change ← Run.ofExcept (helper memory.size)
      Run.modifyStore fun store => store.modifyMemory place change) state := by
  simp only [Code.changeMemory, Code.memory, bind, EStateM.bind, located, get, getThe, MonadStateOf.get,
    EStateM.get, found, pure, EStateM.pure]
  cases helper memory.size with
  | error fault => rfl
  | ok change => simp only [Run.ofExcept, pure, EStateM.pure, located]

lemma changes_of {fits : Prop} [Decidable fits] {size : Nat} {content : Nat → UInt8}
    {helper : Number → Except Fault (Memory → Memory)} (change : Memory → Memory)
    (outcome : helper memory.size = if fits then .ok change else .error (.trap .outOfBoundsMemory))
    (shows : fits → (change memory).measures = memory.measures ∧ (change memory).Shows size content) :
    Changes ω memory size fits content helper := by
  intro owner state place located found
  rw [change_memory_runs located found, outcome]
  constructor
  · intro holds
    obtain ⟨measured, shown⟩ := shows holds
    cases place with
    | object address =>
      refine ⟨(state.store.modifyMemory (.object address) change).objects, change memory, ?_,
        Operation.memory_changed found, measured, shown, fun other apart => ?_⟩
      · rw [if_pos holds]
        rfl
      · have elsewhere : address ≠ other := fun same => apart (congrArg Value.object same)
        rw [Store.modifyMemory, Store.modifyObject, Array.getElem?_modify, if_neg elsewhere]
    | _ => cases found
  · intro fails
    rw [if_neg fails]
    rfl

lemma copy_changes (other : Option Memory) {origin : Linear} (refines : memory.Refines image)
    (origins : (other.getD memory).Refines origin) (target source count : Int) : Changes ω memory image.bytes.length
      (unsigned source + unsigned count ≤ origin.bytes.length ∧ unsigned target + unsigned count ≤ image.bytes.length)
      (overlaid (image.bytes.getD · 0) (origin.bytes.getD · 0) (unsigned target) (unsigned source) (unsigned count))
      (copyFrom other · (.ofInt target) (.ofInt source) (.ofInt count)) := by
  have held : other.elim (.ofInt image.bytes.length) Memory.size = .ofInt origin.bytes.length := by
    cases other with
    | none => exact refines.sized.symm.trans origins.sized
    | some other => exact origins.sized
  have small := image.length_le
  have less := origin.length_le
  apply changes_of (copied other (unsigned target) (unsigned source) (unsigned count))
  · rw [refines.sized]
    exact copyFrom_int held
  · rintro ⟨within, fits⟩
    have moved := copied_moved other memory _ _ _ (fits.trans (by omega)) (within.trans (by omega))
    exact ⟨moved.measured, moved.shows within fits refines.shows origins.shows⟩

lemma patched_replicate {content : Nat → UInt8} {start count : Nat} {byte : UInt8} :
    patched content start (List.replicate count byte) = overlaid content (fun _ => byte) start 0 count := by
  funext index
  rw [patched, List.length_replicate, overlaid]
  split
  · rw [List.getD_replicate _ (by omega)]
  · rfl

open Code (changeMemory perform read readNumber) in
/-- What copying and filling do to a memory that refines an image, and which actions do so. -/
structure Bulk (ω : Type) (memory : Memory) (image : Linear) (target source value count : Int) : Prop where
  copies : Changes ω memory image.bytes.length
    (unsigned source + unsigned count ≤ image.bytes.length ∧ unsigned target + unsigned count ≤ image.bytes.length)
    (overlaid (image.bytes.getD · 0) (image.bytes.getD · 0) (unsigned target) (unsigned source) (unsigned count))
    (copy · (.ofInt target) (.ofInt source) (.ofInt count))
  copiesFrom : ∀ (other : Memory) (origin : Linear), other.Refines origin → Changes ω memory image.bytes.length
    (unsigned source + unsigned count ≤ origin.bytes.length ∧ unsigned target + unsigned count ≤ image.bytes.length)
    (overlaid (image.bytes.getD · 0) (origin.bytes.getD · 0) (unsigned target) (unsigned source) (unsigned count))
    (copyFrom (some other) · (.ofInt target) (.ofInt source) (.ofInt count))
  fills : Changes ω memory image.bytes.length (unsigned target + unsigned count ≤ image.bytes.length)
    (overlaid (image.bytes.getD · 0) (fun _ => UInt8.ofNat (value % 256).toNat) (unsigned target) 0 (unsigned count))
    (fill · (.ofInt target) (.number (.ofInt value)) (.ofInt count))
  copyPerformed : ∀ (context : Context ω) (state : Running ω) (a b c : Target.Operand),
    readNumber context.owner a state = .ok (.ofInt target) state → readNumber context.owner b state = .ok (.ofInt source) state →
    readNumber context.owner c state = .ok (.ofInt count) state → perform context (.memoryCopy a b c) state
      = changeMemory context.owner (copy · (.ofInt target) (.ofInt source) (.ofInt count)) state
  fillPerformed : ∀ (context : Context ω) (state : Running ω) (a b c : Target.Operand),
    readNumber context.owner a state = .ok (.ofInt target) state → read context.owner b state = .ok (.number (.ofInt value)) state →
    readNumber context.owner c state = .ok (.ofInt count) state → perform context (.memoryFill a b c) state
      = changeMemory context.owner (fill · (.ofInt target) (.number (.ofInt value)) (.ofInt count)) state

/-- A copy moves the bytes that its source held before, however the two ranges overlap, and a fill sets a byte
throughout its range. Each changes no other byte, and traps exactly when a range leaves its memory. -/
theorem bulk_operations_exact (ω : Type) (refines : memory.Refines image) (target source value count : Int) :
    Bulk ω memory image target source value count where
  copies := copy_changes none refines refines target source count
  copiesFrom other _ origins := copy_changes (some other) refines origins target source count
  fills := by
    apply changes_of
    · rw [refines.sized]
      exact fill_int
    · intro fits
      refine ⟨writeFrom_measures memory 0, ?_⟩
      rw [← patched_replicate]
      exact refines.shows.writeFrom _ 0 _ _ (by simp) (by rwa [List.length_replicate]) image.length_le
  copyPerformed context state a b c first second third := by
    simp only [Code.perform, bind, EStateM.bind, first, second, third]
  fillPerformed context state a b c first second third := by
    simp only [Code.perform, bind, EStateM.bind, first, second, third]

def pageState : Running Unit where
  frame := ⟨#[], #[]⟩
  store := { Store.empty () with
    objects := #[⟨.null, .memory (empty (.ofInt 1) (.ofInt 2))⟩]
    instances := #[{ Instance.empty 0 with memories := #[.object 0] }] }

def fillLast (count : Int32) : Run Unit Unit := Code.perform ⟨.empty, fun _ _ => pure [], .known 0⟩
    (.memoryFill (.atom (.i32 65535)) (.atom (.i32 (-1))) (.atom (.i32 count)))

/-- The last byte of a page is set, and the byte behind it cannot be. -/
theorem bulk_operations_last : (∃ objects after,
      fillLast 1 pageState = .ok () { pageState with store := { pageState.store with objects := objects } } ∧
      Store.memory? { pageState.store with objects := objects } (.object 0) = some after ∧
      after.byte (.ofInt 65535) = .ofInt 255) ∧ fillLast 2 pageState = .error Trap.outOfBoundsMemory.raised pageState := by
  have length : (Linear.zeros 1 2 (by decide) (by decide)).bytes.length = 65536 := List.length_replicate
  have bulk (count : Int) := bulk_operations_exact Unit (Refines.zeros 1 2 (by decide) (by decide)) 65535 0 (-1) count
  have runs (count : Int) := (bulk count).fills (.known 0) pageState (.object 0) rfl rfl
  rw [length] at runs
  have performed (count : Int32) := (bulk count.toInt).fillPerformed ⟨.empty, fun _ _ => pure [], .known 0⟩ pageState
    (.atom (.i32 65535)) (.atom (.i32 (-1))) (.atom (.i32 count)) rfl rfl rfl
  rw [fillLast, fillLast, performed, performed]
  refine ⟨?_, (runs 2).2 (by decide)⟩
  obtain ⟨objects, after, ran, held, -, shows, -⟩ := (runs 1).1 (by decide)
  refine ⟨objects, after, ran, held, ?_⟩
  have byte := shows.byte 65535 (by decide)
  rw [overlaid, if_pos (by decide)] at byte
  exact byte

end Memory

end WasmLua.Exec
