import Mathlib
import WasmLua.Compile.Unit

namespace WasmLua

open List

variable (index : Nat)

lemma index_chars : ∀ char ∈ (toString index).toList, char.isDigit = true := by
  rw [show toString index = index.repr from rfl, Nat.toList_repr]
  exact fun _ => Nat.isDigit_of_mem_toDigits (by decide) (by decide)

lemma index_some : (toString index).toList ≠ [] := by
  rw [show toString index = index.repr from rfl, Nat.toList_repr]
  exact Nat.toDigits_ne_nil

def Numeric (text : List Char) : Prop := ∃ char ∈ text.head?, char = '-' ∨ char.isDigit = true

variable {digits : List Char} {whole : Nat}

lemma numeric_digits (rest : List Char) (some : digits ≠ [])
    (all : ∀ char ∈ digits, char.isDigit = true) : Numeric (digits ++ rest) := by
  cases digits with
  | nil => exact absurd rfl some
  | cons first others => exact ⟨first, rfl, .inr (all first mem_cons_self)⟩

lemma numeric_int (value : Int) : Numeric (toString value).toList := by
  cases value with
  | ofNat number =>
    rw [← append_nil (toString (Int.ofNat number)).toList]
    exact numeric_digits [] (index_some number) (index_chars number)
  | negSucc number => exact ⟨'-', by simp [toString, Int.repr, String.toList_append], .inl rfl⟩

lemma numeric_point (positive : 0 < whole) (all : ∀ char ∈ digits, char.isDigit = true) :
    Numeric (DecimalLayout.pointAfter whole digits) := by
  have front : digits.take whole ++ replicate (whole - digits.length) '0' ≠ [] := by
    cases digits with
    | nil => simpa using Nat.ne_of_gt positive
    | cons first rest => simp [Nat.ne_of_gt positive]
  have plain : ∀ char ∈ digits.take whole ++ replicate (whole - digits.length) '0', char.isDigit = true := by
    intro char member
    rcases mem_append.mp member with taken | filled
    · exact all char (mem_of_mem_take taken)
    · rw [eq_of_mem_replicate filled]
      rfl
  unfold DecimalLayout.pointAfter
  split
  · rw [← append_nil (_ ++ _)]
    exact numeric_digits [] front plain
  · exact numeric_digits _ front plain

lemma numeric_write (layout : DecimalLayout) (decimal : Decimal) : Numeric (layout.write decimal).toList := by
  have all : ∀ char ∈ ((Nat.toDigits 10 decimal.coefficient).reverse.dropWhile (· == '0')).reverse, char.isDigit = true := by
    intro char member
    have kept := (dropWhile_sublist _).mem (mem_reverse.mp member)
    exact Nat.isDigit_of_mem_toDigits (by decide) (by decide) (mem_reverse.mp kept)
  rw [DecimalLayout.write, String.toList_ofList]
  split
  · obtain ⟨char, first, digit⟩ := numeric_point Nat.one_pos all
    exact ⟨char, by simp [head?_append, Option.mem_def.mp first], digit⟩
  · split
    · exact ⟨'0', rfl, .inr rfl⟩
    · exact numeric_point (Nat.succ_pos _) all

namespace Target

def Placed (text : List Char) : Prop := (∃ char ∈ text.head?, char = 's' ∨ char = 'v' ∨ char = 'l') ∧
    ∃ char ∈ text.getLast?, char = ']' ∨ char.isDigit = true

lemma numeric_not_placed {text : List Char} (numeric : Numeric text) : ¬ Placed text := by
  rintro ⟨⟨char, first, letter⟩, -⟩
  obtain ⟨other, same, digit⟩ := numeric
  cases first.symm.trans same
  rcases letter with rfl | rfl | rfl <;> simp at digit

lemma end_not_placed (front tail : String) {char : Char}
    (last : tail.toList.getLast? = some char) (other : ¬ (char = ']' ∨ char.isDigit = true)) :
    ¬ Placed (front ++ tail).toList := by
  rintro ⟨-, found, same, closing⟩
  rw [String.toList_append, getLast?_append, last] at same
  cases same
  exact other closing

lemma atom_not_placed (namePrefix : String) (atom : Atom) : ¬ Placed (atom.text namePrefix).toList := by
  cases atom with
  | i32 value => exact numeric_not_placed (numeric_int value.toInt)
  | null => simp [Placed, Atom.text]
  | ref function =>
    have first : (Atom.text namePrefix (.ref function)).toList = 'm' :: '.' :: 'r' :: (toString function).toList := by
      simp [Atom.text, String.toList_append, toString]
    rw [first]
    simp [Placed]
  | i64 value =>
    rw [Atom.text]
    split
    · exact end_not_placed _ "i64_zero" rfl (by decide)
    · exact end_not_placed _ ")" rfl (by decide)
  | float value =>
    cases value with
    | nan => exact end_not_placed _ "nan" rfl (by decide)
    | negZero => exact end_not_placed _ "neg_zero" rfl (by decide)
    | infinity negative =>
      cases negative with
      | false => exact end_not_placed _ "inf" rfl (by decide)
      | true =>
        rw [Atom.text, helper, ← String.append_assoc]
        exact end_not_placed _ "inf" rfl (by decide)
    | finite value =>
      apply numeric_not_placed
      rw [show Atom.text namePrefix (.float (.finite value)) = (Number.finite value).text .binary64 from rfl, Number.text]
      split
      · exact ⟨'0', rfl, .inr rfl⟩
      · dsimp only
        split
        · exact ⟨'-', by simp [String.toList_append], .inl rfl⟩
        · exact numeric_write _ _

namespace Naming

variable (naming : Naming)

lemma slot_chars : (naming.slot index).toList = if naming.spilled then 's' :: '[' :: (toString index).toList ++ [']']
      else 's' :: (toString index).toList := by
  unfold slot
  split <;> simp [String.toList_append, toString]

lemma variable_chars : (naming.variableText index).toList
    = if naming.spilled && naming.params ≤ index then 'l' :: '[' :: (toString index).toList ++ [']']
      else 'v' :: (toString index).toList := by
  unfold variableText
  split <;> simp [String.toList_append, toString]

lemma index_last (front : List Char) (index : Nat) :
    ∃ char ∈ (front ++ (toString index).toList).getLast?, char = ']' ∨ char.isDigit = true := by
  have some := index_some index
  refine ⟨(toString index).toList.getLast some, ?_, .inr (index_chars index _ (getLast_mem some))⟩
  rw [getLast?_append_of_ne_nil _ some]
  exact getLast?_eq_some_getLast some

lemma slot_placed : Placed (naming.slot index).toList := by
  rw [slot_chars]
  split
  · exact ⟨⟨'s', rfl, .inl rfl⟩, ']', getLast?_concat, .inl rfl⟩
  · exact ⟨⟨'s', rfl, .inl rfl⟩, index_last ['s'] index⟩

lemma variable_placed : Placed (naming.variableText index).toList := by
  rw [variable_chars]
  split
  · exact ⟨⟨'l', rfl, .inr (.inr rfl)⟩, ']', getLast?_concat, .inl rfl⟩
  · exact ⟨⟨'v', rfl, .inr (.inl rfl)⟩, index_last ['v'] index⟩

lemma index_injective {first second : Nat} (same : (toString first).toList = (toString second).toList) : first = second :=
  Nat.repr_injective (String.toList_injective same)

lemma operand_slot (operand : Operand) (index : Nat) : naming.operand operand = naming.slot index ↔ operand = .slot index := by
  refine ⟨fun same => ?_, fun same => by rw [same]; rfl⟩
  have chars := congrArg String.toList same
  cases operand with
  | slot other =>
    rw [operand.eq_1, slot_chars, slot_chars] at chars
    split at chars
    all_goals exact congrArg _ (index_injective (by simpa using chars))
  | «local» other =>
    rw [operand.eq_2, slot_chars, variable_chars] at chars
    split at chars <;> split at chars <;> simp at chars
  | atom value => exact absurd (chars ▸ naming.slot_placed index) (atom_not_placed _ value)

lemma operand_variable (operand : Operand) (index : Nat) :
    naming.operand operand = naming.variableText index ↔ operand = .local index := by
  refine ⟨fun same => ?_, fun same => by rw [same]; rfl⟩
  have chars := congrArg String.toList same
  cases operand with
  | slot other =>
    rw [operand.eq_1, slot_chars, variable_chars] at chars
    split at chars <;> split at chars <;> simp at chars
  | «local» other =>
    rw [operand.eq_2, variable_chars, variable_chars] at chars
    split at chars <;> split at chars
    · exact congrArg _ (index_injective (by simpa using chars))
    · simp at chars
    · simp at chars
    · exact congrArg _ (index_injective (by simpa using chars))
  | atom value => exact absurd (chars ▸ naming.variable_placed index) (atom_not_placed _ value)

end Naming

end Target

namespace Compile

lemma textual_structural (naming : Target.Naming) : Comparison.textual naming = .structural := by
  unfold Comparison.textual Comparison.structural
  congr 1 <;> funext operand index
  · rw [Bool.eq_iff_iff, beq_iff_eq, beq_iff_eq, naming.operand_slot]
  · rw [Bool.eq_iff_iff, beq_iff_eq, beq_iff_eq, naming.operand_variable]

namespace Plan

lemma body_as (plan : Plan) (index : Nat) (signature : Wasm.Signature) (function : Wasm.Function)
    (spilled : Bool) : plan.bodyAs index signature function spilled =
      (compileBody plan.module (plan.module.scopeWith (signature.params ++ function.locals))
        signature.results function.body).mapError (bodyError index) := by
  rw [bodyAs, textual_structural]

lemma compile_function (plan : Plan) (index : Nat) (function : Wasm.Function) :
    plan.compileFunction index function = match plan.module.type? function.type with
      | none => throw .missingSignature
      | some signature => do
        let body ← plan.bodyAs index signature function false
        return plan.finish index (plan.names.functionNames.getD index "") signature function
          (maxVariables < variableCount signature function body) body := by
  unfold compileFunction
  cases plan.module.type? function.type with
  | none => rfl
  | some signature =>
    simp only [body_as]
    cases (compileBody plan.module (plan.module.scopeWith (signature.params ++ function.locals))
        signature.results function.body).mapError (bodyError index) with
    | error fault => rfl
    | ok body =>
      show (if variableCount signature function body ≤ maxVariables then _ else _) = Except.ok _
      by_cases few : variableCount signature function body ≤ maxVariables
      · rw [if_pos few, decide_eq_false (Nat.not_lt.mpr few)]
        rfl
      · rw [if_neg few, decide_eq_true (Nat.lt_of_not_le few)]
        rfl

end Plan

end Compile

end WasmLua
