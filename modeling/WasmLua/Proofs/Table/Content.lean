import WasmLua.Exec.Table
import WasmLua.Proofs.Memory.Bulk

namespace WasmLua.Exec.Table

open Function
open Number
open Wasm (unsigned)

structure Shows (table : Table) (content : Nat → Value) : Prop where
  element : ∀ index : Nat, table.element (.ofInt index) = content index
  placed : ∀ (key : Number) (value : Value), table.elements[key]? = some value →
    ∃ index : Nat, key = .ofInt index

def laid (content : Nat → Value) (start : Nat) (new : List Value) : Nat → Value := fun index =>
  if start ≤ index then new.getD (index - start) (content index) else content index

variable {content : Nat → Value} {start : Nat}

lemma laid_nil : laid content start [] = content := by
  funext index
  simp [laid]

lemma laid_cons {first : Value} {rest : List Value} :
    laid (update content start first) (start + 1) rest = laid content start (first :: rest) := by
  funext index
  simp only [laid]
  rcases Nat.lt_trichotomy index start with before | rfl | behind
  · rw [if_neg (by omega), if_neg (by omega), update_of_ne (by omega)]
  · rw [if_neg (by omega), if_pos (Nat.le_refl _), update_self, Nat.sub_self, List.getD_cons_zero]
  · rw [if_pos (by omega), if_pos (by omega), update_of_ne (by omega),
      show index - start = index - (start + 1) + 1 by omega, List.getD_cons_succ]

section Writing

variable {table : Table} {content : Nat → Value}

lemma put_shows (shows : Shows table content) (index : Nat) (value : Value) :
    Shows (table.put (.ofInt index) value) (update content index value) := by
  have apart (place : Nat) (different : place ≠ index) : (ofInt index == .ofInt place) = false := by
    rw [beq_eq_false_iff_ne]
    exact fun same => different (Memory.index_injective index place same).symm
  constructor
  · intro place
    by_cases here : place = index
    · subst here
      rw [update_self, put]
      split
      · rename_i null
        simp [Table.element, null]
      · simp [Table.element]
    · rw [update_of_ne here, ← shows.element place, put]
      split
      · simp [Table.element, Std.HashMap.getD_erase, apart place here]
      · simp [Table.element, Std.HashMap.getD_insert, apart place here]
  · intro key held entry
    rw [put] at entry
    split at entry
    · simp only [Std.HashMap.getElem?_erase] at entry
      split at entry
      · cases entry
      · exact shows.placed key held entry
    · simp only [Std.HashMap.getElem?_insert] at entry
      split at entry
      · rename_i same
        exact ⟨index, (eq_of_beq same).symm⟩
      · exact shows.placed key held entry

lemma write_shows (shows : Shows table content) (base : Int) (position start : Nat)
    (values : List Value) (place : base + position = start) (small : start + values.length ≤ 2 ^ 53) :
    Shows (writeFrom (.ofInt base) position values table) (laid content start values) := by
  induction values generalizing table content position start with
  | nil =>
    rw [laid_nil]
    exact shows
  | cons first rest ih =>
    rw [List.length_cons] at small
    rw [writeFrom, add_int _ (by omega), place, ← laid_cons]
    exact ih (put_shows shows start first) (position + 1) (start + 1) (by push_cast; omega) (by omega)

lemma put_measures (table : Table) (index : Number) (value : Value) :
    (table.put index value).size = table.size ∧ (table.put index value).maximum = table.maximum := by
  unfold put
  split
  all_goals exact ⟨rfl, rfl⟩

lemma write_measures (table : Table) (base : Number) (position : Nat) (values : List Value) :
    (writeFrom base position values table).size = table.size ∧
      (writeFrom base position values table).maximum = table.maximum := by
  induction values generalizing table position with
  | nil => exact ⟨rfl, rfl⟩
  | cons first rest ih =>
    obtain ⟨size, maximum⟩ := ih (table.put (base + .ofInt position) first) (position + 1)
    obtain ⟨sameSize, sameMaximum⟩ := put_measures table (base + .ofInt position) first
    exact ⟨size.trans sameSize, maximum.trans sameMaximum⟩

lemma put_from_writes (table : Table) (value : Value) (start position count : Nat) (small : start + position + count ≤ 2 ^ 53) :
    putFrom value count (.ofInt (start + position : Nat)) table
      = writeFrom (.ofInt start) position (List.replicate count value) table := by
  induction count generalizing table position with
  | zero => rfl
  | succ count ih =>
    have next := ih (table.put (.ofInt (start + position : Nat)) value) (position + 1) (by omega)
    rw [putFrom, List.replicate_succ, writeFrom, add_int _ (by omega), add_int _ (by omega)]
    rw [show ((start + position : Nat) : Int) + 1 = ((start + (position + 1) : Nat) : Int) by
      push_cast; omega, next]
    push_cast
    rfl

end Writing

section Helpers

variable {table : Table} {length : Nat} (sized : table.size = .ofInt length)

include sized

lemma get_int {index : Int} : table.get (.ofInt index) =
      if unsigned index < length then .ok (table.element (.ofInt (unsigned index)))
      else .error (.trap .outOfBoundsTable) := by
  rw [get, unsigned_int, ← Wasm.unsigned_cast]
  simp only [sized, le_int]
  by_cases inside : unsigned index < length
  · rw [if_pos inside, decide_eq_false (by omega), if_neg Bool.false_ne_true]
  · rw [if_neg inside, decide_eq_true (by omega), if_pos rfl]

lemma set_int (index : Int) (value : Value) : table.set (.ofInt index) value =
      if unsigned index + 1 ≤ length then .ok (writeFrom (.ofInt (unsigned index)) 0 [value] table)
      else .error (.trap .outOfBoundsTable) := by
  have below := Wasm.unsigned_lt index
  have number : ¬ (ofInt (unsigned index)).isNaN = true := Bool.false_ne_true
  rw [set, unsigned_int, ← Wasm.unsigned_cast]
  simp only [sized, le_int]
  by_cases inside : unsigned index + 1 ≤ length
  · rw [if_pos inside, decide_eq_false (by omega), if_neg Bool.false_ne_true, if_neg number, writeFrom, writeFrom, add_int _ (by omega)]
    simp
  · rw [if_neg inside, decide_eq_true (by omega), if_pos rfl]

lemma fill_int (index : Int) (value : Value) (count : Int) : table.fill (.ofInt index) value (.ofInt count) =
      if unsigned index + unsigned count ≤ length then
        .ok (writeFrom (.ofInt (unsigned index)) 0 (List.replicate (unsigned count) value) table)
      else .error (.trap .outOfBoundsTable) := by
  have below := Wasm.unsigned_lt index
  have few := Wasm.unsigned_lt count
  have steps := Memory.steps_int (unsigned index) (unsigned count) (by omega)
  rw [fill, unsigned_int, unsigned_int, ← Wasm.unsigned_cast, ← Wasm.unsigned_cast]
  simp only [sized]
  have writes := put_from_writes table value (unsigned index) 0 (unsigned count) (by omega)
  rw [Nat.add_zero] at writes
  rw [add_int _ (by omega), Memory.refused_int, sub_int (by omega), steps, writes]
  exact if_congr (by omega) rfl rfl

lemma segment_int (offset : Int) {values : List Value} (few : values.length < 2 ^ 32) : (do
      table.check (.ofInt offset) values.length
      table.init (.ofInt offset) values) =
      if unsigned offset + values.length ≤ length then
        .ok (writeFrom (.ofInt (unsigned offset - 1)) 1 values table)
      else .error (.trap .outOfBoundsTable) := by
  have below := Wasm.unsigned_lt offset
  rw [check, init, unsigned_int, ← Wasm.unsigned_cast, sized, add_int _ (by omega), Memory.refused_int, sub_int (by omega)]
  by_cases fits : unsigned offset + values.length ≤ length
  · rw [if_pos fits, if_pos (by omega), ok_bind]
    simp only [nan_int, Bool.false_and, Bool.false_eq_true, if_false]
  · rw [if_neg fits, if_neg (by omega)]
    rfl

lemma grow_int {limit : Nat} (limited : table.maximum = .ofInt limit) (addressable : limit < 2 ^ 32)
    (bounded : length ≤ limit) {value : Value} {delta : Int} : table.grow value (.ofInt delta) =
      if length + unsigned delta ≤ limit then
        .ok (.ofInt ((length : Int).bmod (2 ^ 32)), { (if value = .null then table
            else writeFrom (.ofInt length) 0 (List.replicate (unsigned delta) value) table) with
          size := .ofInt (length + unsigned delta : Nat) })
      else .ok (.ofInt (-1), table) := by
  have few := Wasm.unsigned_lt delta
  have steps := Memory.steps_int length (unsigned delta) (by omega)
  have writes := put_from_writes table value length 0 (unsigned delta) (by omega)
  rw [Nat.add_zero] at writes
  rw [grow, unsigned_int, ← Wasm.unsigned_cast, sized, limited, add_int _ (by omega)]
  simp only [Memory.refused_int]
  refine if_congr (by omega) ?_ rfl
  rw [sub_int (by omega), steps, wrap_number, ok_bind, writes]
  push_cast
  rfl

end Helpers

end WasmLua.Exec.Table
