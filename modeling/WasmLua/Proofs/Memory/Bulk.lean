import WasmLua.Proofs.Memory.Accesses

namespace WasmLua.Exec.Memory

open Number Wasm
open Wasm (unsigned)

lemma steps_int (first count : Nat) (small : first + count ≤ 2 ^ 52) :
    steps (.ofInt first) (.ofInt (first + count - 1)) = count := by
  rw [steps, sub_int (by omega), floor_int, whole_int]
  simp only
  omega

variable {size source : Nat} {target : Int}

lemma fill_int {value count : Int} : fill (.ofInt size) (.ofInt target) (.number (.ofInt value)) (.ofInt count) =
      if unsigned target + unsigned count ≤ size then
        .ok (writeFrom (.ofInt (unsigned target)) 0 (List.replicate (unsigned count) (UInt8.ofNat (value % 256).toNat)))
      else .error (.trap .outOfBoundsMemory) := by
  have inside := unsigned_lt target
  have few := unsigned_lt count
  have steps := steps_int (unsigned target) (unsigned count) (by omega)
  rw [fill, unsigned_int, unsigned_int, ← unsigned_cast, ← unsigned_cast]
  simp only
  rw [add_int _ (by omega), refused_int, sub_int (by omega), steps, byte_of_int, ok_bind]
  refine if_congr (by omega) (congrArg Except.ok (funext fun memory => ?_)) rfl
  exact fill_writes memory _ (by omega)

/-- The bytes of `original` from `source` on stand from `target` on. -/
def overlaid (content original : Nat → UInt8) (target source count : Nat) : Nat → UInt8 := fun index =>
  if target ≤ index ∧ index < target + count then original (source + (index - target)) else content index

lemma patched_window {content : Nat → UInt8} {target count : Nat} :
    patched content target (window content source count) = overlaid content content target source count := by
  funext index
  rw [patched, window, List.length_map, List.length_range', overlaid]
  split
  · rename_i inside
    rw [List.getD_eq_getElem?_getD, List.getElem?_map, List.getElem?_range' (by omega)]
    simp
  · rfl

variable {memory : Memory} {content : Nat → UInt8} {count : Nat}

def measures (memory : Memory) : Number × Number × Number := (memory.pages, memory.size, memory.maximum)

/-- The entries from `source + first` on of one memory stand in another from `target + first` on,
which is otherwise as it was before. -/
structure Moved (other before after : Memory) (target source first count : Nat) : Prop where
  inside : ∀ index, first ≤ index → index < first + count →
    after.data[ofInt (target + index : Nat)]? = other.data[ofInt (source + index : Nat)]?
  outside : ∀ address : Number,
    (∀ index, first ≤ index → index < first + count → address ≠ .ofInt (target + index : Nat)) →
    after.data[address]? = before.data[address]?
  measured : after.measures = before.measures

section Copying

variable {other : Option Memory} {target source first : Nat}

lemma Moved.refl : Moved (other.getD memory) memory memory target source first 0 where
  inside index low high := by omega
  outside address _ := rfl
  measured := rfl

lemma copyByte_data (target source address : Number) : (copyByte other target source memory).data[address]? =
      if target == address then (other.getD memory).data[source]? else memory.data[address]? := by
  rw [copyByte]
  cases found : (other.getD memory).data[source]? with
  | none => exact Std.HashMap.getElem?_erase
  | some value => exact Std.HashMap.getElem?_insert

lemma copyByte_measured (target source : Number) : (copyByte other target source memory).measures = memory.measures := by
  rw [copyByte]
  split <;> rfl

lemma place_beq (first second : Nat) : (ofInt first == ofInt second) = decide (first = second) := by
  by_cases same : first = second
  · rw [same, decide_eq_true rfl, beq_self_eq_true]
  · rw [decide_eq_false same, beq_eq_false_iff_ne]
    intro equal
    exact same (index_injective first second equal)

lemma Moved.step {here : Memory} {index : Nat} (rest : Moved (other.getD (copyByte other (.ofInt (target + index : Nat))
      (.ofInt (source + index : Nat)) memory)) (copyByte other (.ofInt (target + index : Nat))
      (.ofInt (source + index : Nat)) memory) here target source first count)
    (fresh : ∀ later, first ≤ later → later < first + count → later ≠ index)
    (unread : other = none → ∀ later, first ≤ later → later < first + count → source + later ≠ target + index)
    {low width : Nat} (covers : ∀ later, (low ≤ later ∧ later < low + width) ↔ (later = index ∨ (first ≤ later ∧ later < first + count))) :
    Moved (other.getD memory) memory here target source low width where
  inside := by
  -- Bytes are read in a memory whose entries at the places still to read are the ones at the start.
    intro later above below
    by_cases same : later = index
    · subst same
      rw [rest.outside, copyByte_data, beq_self_eq_true, if_pos rfl]
      intro next atLeast under equal
      exact fresh next atLeast under (by have := index_injective _ _ equal; omega)
    · obtain ⟨atLeast, under⟩ : first ≤ later ∧ later < first + count := by
        rcases (covers later).mp ⟨above, below⟩ with equal | inner
        · exact absurd equal same
        · exact inner
      rw [rest.inside later atLeast under]
      cases other with
      | some other => rfl
      | none =>
        rw [Option.getD_none, Option.getD_none, copyByte_data, place_beq,
          decide_eq_false (by have := unread rfl later atLeast under; omega), if_neg Bool.false_ne_true]
  outside := by
    intro address away
    rw [rest.outside, copyByte_data, if_neg]
    · intro equal
      obtain ⟨above, below⟩ := (covers index).mpr (.inl rfl)
      exact away index above below (eq_of_beq equal).symm
    · intro later atLeast under
      obtain ⟨above, below⟩ := (covers later).mpr (.inr ⟨atLeast, under⟩)
      exact away later above below
  measured := rest.measured.trans (copyByte_measured _ _)

lemma copyUp_moved (index count : Nat) (below : other = none → target ≤ source)
    (small : target + index + count ≤ 2 ^ 53) (inner : source + index + count ≤ 2 ^ 53) : Moved (other.getD memory) memory
      (copyUp other (.ofInt target) (.ofInt source) index count memory) target source index count := by
  induction count generalizing index memory with
  | zero => exact .refl
  | succ count ih =>
    rw [copyUp, add_int _ (by omega), add_int _ (by omega), ← Nat.cast_add, ← Nat.cast_add]
    apply (ih (index + 1) (by omega) (by omega)).step
    · omega
    · intro same later atLeast under
      have := below same
      omega
    · omega

lemma copyDown_moved (above : other = none → source ≤ target) (small : target + count ≤ 2 ^ 53)
    (inner : source + count ≤ 2 ^ 53) : Moved (other.getD memory) memory
      (copyDown other (.ofInt target) (.ofInt source) count (.ofInt (count - 1)) memory) target source 0 count := by
  induction count generalizing memory with
  | zero => exact .refl
  | succ count ih =>
    have last : ((count + 1 : Nat) : Int) - 1 = count := by omega
    rw [copyDown, last, add_int _ (by omega), add_int _ (by omega), sub_int (by omega), ← Nat.cast_add, ← Nat.cast_add]
    apply (ih (by omega) (by omega)).step
    · omega
    · intro same later _ under
      have := above same
      omega
    · omega

end Copying

def copied (other : Option Memory) (target source count : Nat) : Memory → Memory :=
  if target ≤ source then copyUp other (.ofInt target) (.ofInt source) 0 count
  else copyDown other (.ofInt target) (.ofInt source) count (.ofInt (count - 1))

lemma copyFrom_int {other : Option Memory} {held : Nat}
    (holds : other.elim (.ofInt size) Memory.size = .ofInt held) {source count : Int} :
    copyFrom other (.ofInt size) (.ofInt target) (.ofInt source) (.ofInt count) =
      if unsigned source + unsigned count ≤ held ∧ unsigned target + unsigned count ≤ size then
        .ok (copied other (unsigned target) (unsigned source) (unsigned count))
      else .error (.trap .outOfBoundsMemory) := by
  have inside := unsigned_lt target
  have start := unsigned_lt source
  have few := unsigned_lt count
  have steps := steps_int 0 (unsigned count) (by omega)
  rw [Nat.cast_zero, zero_add] at steps
  rw [copyFrom, unsigned_int, unsigned_int, unsigned_int, ← unsigned_cast, ← unsigned_cast, ← unsigned_cast, holds]
  simp only
  rw [add_int _ (by omega), add_int _ (by omega), lt_int, lt_int, sub_int (by omega), steps, le_int, ← Bool.decide_or]
  by_cases fits : unsigned source + unsigned count ≤ held ∧ unsigned target + unsigned count ≤ size
  · rw [if_pos fits, decide_eq_false (by omega), if_neg Bool.false_ne_true, copied]
    by_cases below : unsigned target ≤ unsigned source
    · rw [if_pos below, decide_eq_true (by omega), if_pos rfl]
    · rw [if_neg below, decide_eq_false (by omega), if_neg Bool.false_ne_true]
      split
      · rename_i none
        rw [none]
        rfl
      · rfl
  · rw [if_neg fits, decide_eq_true (by omega), if_pos rfl]

lemma copied_moved (other : Option Memory) (memory : Memory) (target source count : Nat)
    (small : target + count ≤ 2 ^ 53) (inner : source + count ≤ 2 ^ 53) :
    Moved (other.getD memory) memory (copied other target source count memory) target source 0 count := by
  rw [copied]
  by_cases below : target ≤ source
  · rw [if_pos below]
    exact copyUp_moved 0 count (fun _ => below) (by omega) (by omega)
  · rw [if_neg below]
    exact copyDown_moved (fun _ => by omega) small inner

lemma Moved.shows {origin after : Memory} {original : Nat → UInt8} {target held : Nat}
    (moved : Moved origin memory after target source 0 count) (within : source + count ≤ held)
    (fits : target + count ≤ size) (shows : Shows memory size content) (origins : Shows origin held original) :
    Shows after size (overlaid content original target source count) := by
  -- Every place is one that was copied to, or keeps its entry.
  have place (address : Number) : (∃ index < count, address = .ofInt (target + index : Nat) ∧
      after.data[address]? = origin.data[ofInt (source + index : Nat)]?) ∨
      (∀ index < count, address ≠ .ofInt (target + index : Nat)) ∧ after.data[address]? = memory.data[address]? := by
    by_cases inside : ∃ index < count, address = .ofInt (target + index : Nat)
    · obtain ⟨index, below, rfl⟩ := inside
      exact .inl ⟨index, below, rfl, moved.inside index (Nat.zero_le _) (by omega)⟩
    · push Not at inside
      exact .inr ⟨inside, moved.outside address fun index _ below => inside index (by omega)⟩
  refine ⟨?_, ?_⟩
  · intro key value found
    rcases place key with ⟨index, below, rfl, entry⟩ | ⟨away, entry⟩
    · rw [entry] at found
      obtain ⟨first, _, same, rfl⟩ := origins.stored _ _ found
      have first := index_injective _ _ same
      refine ⟨target + index, by omega, rfl, ?_⟩
      rw [overlaid, if_pos (by omega), Nat.add_sub_cancel_left, first]
    · rw [entry] at found
      obtain ⟨index, below, rfl, rfl⟩ := shows.stored _ _ found
      refine ⟨index, below, rfl, ?_⟩
      rw [overlaid, if_neg]
      rintro ⟨low, high⟩
      exact away (index - target) (by omega) (by rw [Nat.add_sub_cancel' low])
  · intro index below missing
    rcases place (.ofInt index) with ⟨distance, near, same, entry⟩ | ⟨away, entry⟩
    · have same := index_injective _ _ same
      rw [entry] at missing
      rw [overlaid, if_pos (by omega), same, Nat.add_sub_cancel_left, origins.absent (source + distance) (by omega) missing]
    · rw [overlaid, if_neg, shows.absent index below (entry ▸ missing)]
      rintro ⟨low, high⟩
      exact away (index - target) (by omega) (by rw [Nat.add_sub_cancel' low])

lemma segment_int (size : Nat) (offset : Int) {bytes : Bytes} (few : bytes.length < 2 ^ 32) : (do
      check (.ofInt size) (.ofInt offset) bytes.length
      init (.ofInt offset) bytes) =
      if unsigned offset + bytes.length ≤ size then
        .ok (writeFrom (.ofInt (unsigned offset - 1)) 1 bytes)
      else .error (.trap .outOfBoundsMemory) := by
  have inside := unsigned_lt offset
  rw [check, init, unsigned_int, ← unsigned_cast, add_int _ (by omega), refused_int, sub_int (by omega)]
  by_cases fits : unsigned offset + bytes.length ≤ size
  · rw [if_pos fits, if_pos (by omega)]
    cases bytes <;> rfl
  · rw [if_neg fits, if_neg (by omega)]
    rfl

lemma grow_int {pages limit : Nat} (delta : Int) (paged : memory.pages = .ofInt pages)
    (limited : memory.maximum = .ofInt limit) (bounded : pages ≤ limit) (addressable : limit ≤ 65536) :
    memory.grow (.ofInt delta) =
      if pages + unsigned delta ≤ limit then
        (.ofInt pages, { memory with
          pages := .ofInt (pages + unsigned delta : Nat)
          size := .ofInt ((pages + unsigned delta) * pageSize : Nat) })
      else (.ofInt (-1), memory) := by
  have inside := unsigned_lt delta
  rw [grow, unsigned_int, ← unsigned_cast, paged, limited, add_int _ (by omega), refused_int]
  refine if_congr (by omega) ?_ rfl
  rw [mul_int (by rw [pageSize]; omega)]
  push_cast
  rfl

end WasmLua.Exec.Memory
