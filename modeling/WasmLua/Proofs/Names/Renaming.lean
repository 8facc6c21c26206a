import WasmLua.Compile.Names
import WasmLua.Proofs.Text.Strings
import WasmLua.Target.Operation

namespace WasmLua.Compile

open Nat
open Bytes Prelude List
open Target (helper)

def indexEnd (index : Nat) : List Char := '_' :: (toString index).toList

def Suffixed (index : Nat) (name : String) : Prop := indexEnd index <:+ name.toList

instance (index : Nat) (name : String) : Decidable (Suffixed index name) :=
  inferInstanceAs (Decidable (indexEnd index <:+ name.toList))

variable {index : Nat} {name : String} {names : List String}

lemma index_digits {char : Char} (member : char ∈ (toString index).toList) : char.isDigit = true := by
  rw [show toString index = index.repr from rfl, toList_repr] at member
  exact isDigit_of_mem_toDigits (by decide) (by decide) member

lemma digits_plain (index : Nat) : '_' ∉ (toString index).toList := fun member => absurd (index_digits member) (by decide)

lemma plain_end {part : List Char} (free : '_' ∉ part) : ∀ char ∈ part.reverse, (char != '_') = true := by
  intro char member
  rw [bne_iff_ne]
  rintro rfl
  exact free (mem_reverse.mp member)

lemma last_part {first second front back : List Char} (left : '_' ∉ front) (right : '_' ∉ back)
    (same : first ++ '_' :: front = second ++ '_' :: back) : first = second ∧ front = back := by
  have reversed := congrArg reverse same
  simp only [reverse_append, reverse_cons, append_assoc, singleton_append] at reversed
  have taken := congrArg (takeWhile (· != '_')) reversed
  have dropped := congrArg (dropWhile (· != '_')) reversed
  rw [takeWhile_append_of_pos (plain_end left), takeWhile_append_of_pos (plain_end right)] at taken
  rw [dropWhile_append_of_pos (plain_end left), dropWhile_append_of_pos (plain_end right)] at dropped
  simp only [bne_self_eq_false, Bool.false_eq_true, not_false_eq_true, takeWhile_cons_of_neg, append_nil, reverse_inj] at taken
  simp only [bne_self_eq_false, Bool.false_eq_true, not_false_eq_true, dropWhile_cons_of_neg, cons.injEq, true_and, reverse_inj] at dropped
  exact ⟨dropped, taken⟩

lemma suffix_index {first second : Nat} (left : Suffixed first name) (right : Suffixed second name) : first = second := by
  obtain ⟨stem, ends⟩ := left
  obtain ⟨other, also⟩ := right
  have same := (last_part (digits_plain first) (digits_plain second) (ends.trans also.symm)).2
  exact repr_injective (String.toList_injective same)

lemma append_suffixed (index : Nat) (name : String) : Suffixed index s!"{name}_{index}" :=
  ⟨name.toList, by simp [indexEnd, String.toList_append, toString]⟩

lemma reserved_lettered (member : name ∈ reserved) : ∃ char ∈ name.toList.reverse.takeWhile (· != '_'), char.isDigit = false := by
  have all : reserved.all (fun name => (name.toList.reverse.takeWhile (· != '_')).any (!·.isDigit)) = true := by
    decide +kernel
  obtain ⟨char, inside, letter⟩ := any_eq_true.mp (all_eq_true.mp all name member)
  exact ⟨char, inside, by simpa using letter⟩

lemma reserved_unsuffixed (name : String) (member : name ∈ reserved) (index : Nat) : ¬ Suffixed index name := by
  rintro ⟨stem, ends⟩
  obtain ⟨char, inside, letter⟩ := reserved_lettered member
  rw [← ends, indexEnd, reverse_append, reverse_cons, append_assoc, takeWhile_append_of_pos (plain_end (digits_plain index))] at inside
  simp only [singleton_append, bne_self_eq_false, Bool.false_eq_true, not_false_eq_true,
    takeWhile_cons_of_neg, append_nil, mem_reverse] at inside
  rw [index_digits inside] at letter
  cases letter

lemma clash_unsuffixed (clash : names.any (clashes names) = true) :
    ∃ index name, names[index]? = some name ∧ clashes names name = true ∧ ¬ Suffixed index name := by
  obtain ⟨name, member, clashing⟩ := any_eq_true.mp clash
  rcases Bool.or_eq_true_iff.mp clashing with shared | reserved
  · have twice := duplicate_iff_two_le_count.mpr (of_decide_eq_true shared)
    obtain ⟨first, second, before, here, there⟩ := duplicate_iff_exists_distinct_get.mp twice
    -- The name cannot end in both of its indices.
    by_cases suffixed : Suffixed first name
    · refine ⟨second, name, ?_, clashing, ?_⟩
      · rw [there]
        exact List.getElem?_eq_getElem second.isLt
      · intro also
        exact absurd (suffix_index suffixed also) (Nat.ne_of_lt before)
    · refine ⟨first, name, ?_, clashing, suffixed⟩
      rw [here]
      exact List.getElem?_eq_getElem first.isLt
  · obtain ⟨index, here⟩ := mem_iff_getElem?.mp member
    exact ⟨index, name, here, clashing, reserved_unsuffixed name (contains_iff_mem.mp reserved) index⟩

lemma renamed_at (here : names[index]? = some name) :
    (renameClashing names)[index]? = some (if clashes names name then s!"{name}_{index}" else name) := by
  rw [renameClashing, List.getElem?_mapIdx, here]
  rfl

def unsuffixed (names : List String) : Finset Nat :=
  (Finset.range names.length).filter fun index => ¬ Suffixed index (names.getD index "")

lemma mem_unsuffixed (here : names[index]? = some name) : index ∈ unsuffixed names ↔ ¬ Suffixed index name := by
  obtain ⟨below, -⟩ := List.getElem?_eq_some_iff.mp here
  rw [unsuffixed, Finset.mem_filter, Finset.mem_range, getD_eq_getElem?_getD, here]
  exact and_iff_right below

lemma round_suffixes (clash : names.any (clashes names) = true) :
    (unsuffixed (renameClashing names)).card < (unsuffixed names).card := by
  have length : (renameClashing names).length = names.length := length_mapIdx
  refine Finset.card_lt_card (Finset.ssubset_iff_subset_ne.mpr ⟨?_, ?_⟩)
  · intro index inside
    have below : index < names.length := length ▸ Finset.mem_range.mp (Finset.mem_of_mem_filter index inside)
    have here : names[index]? = some (names.get ⟨index, below⟩) := List.getElem?_eq_getElem below
    rw [mem_unsuffixed (renamed_at here)] at inside
    rw [mem_unsuffixed here]
    intro suffixed
    split at inside
    · exact inside (append_suffixed index _)
    · exact inside suffixed
  · intro same
    obtain ⟨index, name, here, clashing, free⟩ := clash_unsuffixed clash
    have inside := (mem_unsuffixed here).mpr free
    rw [← same, mem_unsuffixed (renamed_at here), if_pos clashing] at inside
    exact inside (append_suffixed index name)

def afterRounds (names : List String) (rounds : Nat) : List String := renameClashing^[rounds] names

structure SettlesIn (names : List String) (rounds : Nat) : Prop where
  goes : ∀ round < rounds, (afterRounds names round).any (clashes (afterRounds names round)) = true
  stops : (afterRounds names rounds).any (clashes (afterRounds names rounds)) = false

lemma rounds_settle (names : List String) : ∃ rounds ≤ (unsuffixed names).card, SettlesIn names rounds := by
  induction size : (unsuffixed names).card using Nat.strong_induction_on generalizing names with
  | _ size ih =>
    by_cases clash : names.any (clashes names) = true
    · have fewer := round_suffixes clash
      obtain ⟨rounds, few, settles⟩ := ih _ (size ▸ fewer) (renameClashing names) rfl
      refine ⟨rounds + 1, by omega, ⟨?_, settles.stops⟩⟩
      intro round before
      cases round with
      | zero => exact clash
      | succ round => exact settles.goes round (Nat.lt_of_succ_lt_succ before)
    · exact ⟨0, Nat.zero_le _, ⟨nofun, Bool.eq_false_iff.mpr clash⟩⟩

variable {rounds fuel : Nat}

lemma settled_names (settles : SettlesIn names rounds) (enough : rounds < fuel) :
    distinctNames fuel names = afterRounds names rounds := by
  induction rounds generalizing names fuel with
  | zero =>
    obtain ⟨fuel, rfl⟩ := exists_eq_succ_of_ne_zero (ne_of_gt enough)
    rw [distinctNames]
    exact if_neg (Bool.eq_false_iff.mp settles.stops)
  | succ rounds ih =>
    obtain ⟨fuel, rfl⟩ := exists_eq_succ_of_ne_zero (ne_of_gt (zero_lt_of_lt enough))
    rw [distinctNames]
    refine (if_pos (settles.goes 0 (succ_pos rounds))).trans ?_
    refine ih ⟨fun round before => ?_, settles.stops⟩ (lt_of_succ_lt_succ enough)
    exact settles.goes (round + 1) (succ_lt_succ before)

lemma function_rounds (functions : List Wasm.Function) (debugNames : Bool) :
    ∃ rounds ≤ functions.length, SettlesIn (functions.mapIdx (baseName debugNames)) rounds := by
  obtain ⟨rounds, few, settles⟩ := rounds_settle (functions.mapIdx (baseName debugNames))
  refine ⟨rounds, le_trans few (le_trans (Finset.card_filter_le _ _) ?_), settles⟩
  rw [Finset.card_range, length_mapIdx]

lemma function_names_distinct (functions : List Wasm.Function) (debugNames : Bool) :
    (functionNames functions debugNames).Nodup ∧ ∀ name ∈ functionNames functions debugNames, name ∉ reserved := by
  obtain ⟨rounds, few, settles⟩ := function_rounds functions debugNames
  have free := settles.stops
  rw [← settled_names settles (lt_succ_of_le few), ← functionNames] at free
  have each (name : String) (member : name ∈ functionNames functions debugNames) :
      (functionNames functions debugNames).count name ≤ 1 ∧ name ∉ reserved := by
    have clean := any_eq_false.mp free name member
    simpa [clashes] using clean
  exact ⟨nodup_iff_count_le_one.mpr fun name => by
    by_cases member : name ∈ functionNames functions debugNames
    · exact (each name member).1
    · rw [count_eq_zero.mpr member]; exact zero_le 1, fun name member => (each name member).2⟩

lemma plain_name_kept (names : List String) (plain : '_' ∉ name.toList)
    (here : (distinctNames rounds names)[index]? = some name) : names[index]? = some name := by
  induction rounds generalizing names with
  | zero => exact here
  | succ rounds ih =>
    rw [distinctNames] at here
    split at here
    · have renamed := ih (renameClashing names) here
      rw [renameClashing, List.getElem?_mapIdx] at renamed
      obtain ⟨old, before, same⟩ := Option.map_eq_some_iff.mp renamed
      split at same
      · refine absurd ?_ plain
        rw [← same]
        simp [String.toList_append, toString]
      · rw [before, same]
    · exact here

def suffixedName (base : String) (index : Nat) : Nat → String
  | 0 => base
  | copies + 1 => s!"{suffixedName base index copies}_{index}"

variable {base : String}

lemma name_after (rounds : Nat) (here : names[index]? = some base) :
    ∃ copies ≤ rounds, (afterRounds names rounds)[index]? = some (suffixedName base index copies) := by
  induction rounds with
  | zero => exact ⟨0, le_refl 0, here⟩
  | succ rounds ih =>
    obtain ⟨copies, few, found⟩ := ih
    rw [afterRounds, Function.iterate_succ_apply', ← afterRounds, renamed_at found]
    split
    · exact ⟨copies + 1, succ_le_succ few, rfl⟩
    · exact ⟨copies, le_succ_of_le few, rfl⟩

lemma lone_name_free (fresh : name ∉ reserved)
    (lone : ∀ other ≠ index, names[other]? ≠ some name) : clashes names name = false := by
  rw [clashes, Bool.or_eq_false_iff]
  refine ⟨decide_eq_false fun shared => ?_, by simpa using fresh⟩
  obtain ⟨first, second, before, here, there⟩ := duplicate_iff_exists_distinct_get.mp (duplicate_iff_two_le_count.mpr shared)
  -- One of the two places is not the own one.
  by_cases own : first.val = index
  · refine lone second (own ▸ ne_of_gt before) ?_
    rw [there]
    exact List.getElem?_eq_getElem second.isLt
  · refine lone first own ?_
    rw [here]
    exact List.getElem?_eq_getElem first.isLt

lemma lone_name_kept (fresh : base ∉ reserved) (here : names[index]? = some base)
    (lone : ∀ round < rounds, ∀ other ≠ index, (afterRounds names round)[other]? ≠ some base) :
    (afterRounds names rounds)[index]? = some base := by
  induction rounds with
  | zero => exact here
  | succ rounds ih =>
    have found := ih fun round before => lone round (lt_succ_of_lt before)
    rw [afterRounds, Function.iterate_succ_apply', ← afterRounds, renamed_at found,
      lone_name_free fresh (lone rounds (lt_succ_self rounds))]
    rfl

def WordText (text : String) : Prop := ∀ byte ∈ ofString text, (isLetter byte || isDigit byte) = true

instance (text : String) : Decidable (WordText text) :=
  inferInstanceAs (Decidable (∀ byte ∈ ofString text, (isLetter byte || isDigit byte) = true))

lemma words_append {first second : String} (left : WordText first) (right : WordText second) : WordText (first ++ second) := by
  intro byte member
  rw [ofString_append] at member
  exact (mem_append.mp member).elim (left byte) (right byte)

lemma word_chars {text : String} (spelled : ∀ char ∈ text.toList,
      ∃ byte : UInt8, (isLetter byte || isDigit byte) = true ∧ char = Char.ofNat byte.toNat) : WordText text := by
  have table : ∀ code : Fin 256, (isLetter (UInt8.ofNat code.val) || isDigit (UInt8.ofNat code.val)) = true →
        String.utf8EncodeChar (Char.ofNat code.val) = [UInt8.ofNat code.val] := by decide +kernel
  intro byte member
  rw [ofString_chars] at member
  obtain ⟨char, inside, encoded⟩ := mem_flatMap.mp member
  obtain ⟨letter, word, rfl⟩ := spelled char inside
  have one := table ⟨letter.toNat, letter.toNat_lt⟩ (by rwa [UInt8.ofNat_toNat])
  rw [one, mem_singleton, UInt8.ofNat_toNat] at encoded
  exact encoded ▸ word

lemma index_word (index : Nat) : WordText (toString index) := by
  refine word_chars fun char member => ⟨UInt8.ofNat char.toNat, ?_, ?_⟩
  all_goals
    have table : ∀ code : Fin 58, 48 ≤ code.val → isDigit (UInt8.ofNat code.val) = true ∧
        (UInt8.ofNat code.val).toNat = code.val := by decide +kernel
    obtain ⟨least, most⟩ := Bool.and_eq_true_iff.mp (index_digits member)
    have digit := table ⟨char.toNat, lt_succ_of_le (of_decide_eq_true most)⟩ (of_decide_eq_true least)
  · rw [digit.1, Bool.or_true]
  · rw [digit.2, Char.ofNat_toNat]

lemma base_word (debugNames : Bool) (index : Nat) (function : Wasm.Function) : WordText (baseName debugNames index function) := by
  unfold baseName
  split
  · refine word_chars fun char member => ?_
    rw [sanitize, String.toList_ofList, mem_map] at member
    obtain ⟨byte, -, rfl⟩ := member
    split
    · rename_i word
      exact ⟨byte, word, rfl⟩
    · exact ⟨0x5f, rfl, rfl⟩
  · exact words_append (by decide +kernel) (index_word index)

lemma suffixed_word (word : WordText base) (index copies : Nat) : WordText (suffixedName base index copies) := by
  induction copies with
  | zero => exact word
  | succ copies ih => exact words_append (words_append ih (by decide +kernel)) (index_word index)

lemma word_identifier {namePrefix : String} (valid : isIdentifier (ofString namePrefix) = true)
    (word : WordText name) : isIdentifier (ofString (helper namePrefix name)) = true := by
  have free : ∀ keyword ∈ keywords, 0x5f ∉ ofString keyword := by decide +kernel
  have line : ofString "_" = [0x5f] := by decide +kernel
  have bytes : ofString (helper namePrefix name) = ofString namePrefix ++ (0x5f :: ofString name) := by
    rw [helper, ofString_append, ofString_append, append_assoc, line]
    rfl
  rw [bytes]
  cases spelled : ofString namePrefix with
  | nil =>
    rw [spelled] at valid
    cases valid
  | cons first rest =>
    rw [spelled] at valid
    simp only [isIdentifier, Bool.and_eq_true, all_eq_true, Bool.not_eq_true', any_eq_false] at valid
    obtain ⟨⟨letter, others⟩, -⟩ := valid
    simp only [cons_append, isIdentifier, Bool.and_eq_true, all_eq_true, Bool.not_eq_true', any_eq_false, beq_iff_eq]
    refine ⟨⟨letter, fun byte member => ?_⟩, fun keyword listed same => free keyword listed ?_⟩
    · rcases mem_append.mp member with inside | inside
      · exact others byte inside
      · rcases mem_cons.mp inside with rfl | inside
        · rfl
        · exact word byte inside
    · rw [same]
      simp

/-- Renaming takes at most one round more than there are functions. It gives distinct names that are
not reserved: base names with copies of the index, which are identifiers behind every prefix that is
one. -/
theorem function_names_settle (functions : List Wasm.Function) (debugNames : Bool) :
    ∃ rounds ≤ functions.length, SettlesIn (functions.mapIdx (baseName debugNames)) rounds ∧
      (∀ fuel > rounds, distinctNames fuel (functions.mapIdx (baseName debugNames)) = functionNames functions debugNames) ∧
      functionNames functions debugNames = afterRounds (functions.mapIdx (baseName debugNames)) rounds ∧
      (functionNames functions debugNames).Nodup ∧ (∀ name ∈ functionNames functions debugNames, name ∉ reserved) ∧
      ∀ index function, functions[index]? = some function → (∃ copies ≤ rounds, (functionNames functions debugNames)[index]?
          = some (suffixedName (baseName debugNames index function) index copies)) ∧
        (baseName debugNames index function ∉ reserved → (∀ round < rounds, ∀ other ≠ index,
            (afterRounds (functions.mapIdx (baseName debugNames)) round)[other]? ≠ some (baseName debugNames index function)) →
          (functionNames functions debugNames)[index]? = some (baseName debugNames index function)) ∧
        ∀ name ∈ (functionNames functions debugNames)[index]?, ∀ namePrefix, isIdentifier (ofString namePrefix) = true →
            isIdentifier (ofString (helper namePrefix name)) = true := by
  obtain ⟨rounds, few, settles⟩ := function_rounds functions debugNames
  have names : functionNames functions debugNames = _ := settled_names settles (Nat.lt_succ_of_le few)
  obtain ⟨distinct, free⟩ := function_names_distinct functions debugNames
  refine ⟨rounds, few, settles, fun fuel enough => ?_, names, distinct, free, ?_⟩
  · rw [names, settled_names settles enough]
  · intro index function found
    have here : (functions.mapIdx (baseName debugNames))[index]?
        = some (baseName debugNames index function) := by
      rw [List.getElem?_mapIdx, found]
      rfl
    obtain ⟨copies, most, spelled⟩ := name_after rounds here
    rw [names]
    refine ⟨⟨copies, most, spelled⟩, fun fresh lone => lone_name_kept fresh here lone, ?_⟩
    intro name named namePrefix valid
    rw [spelled] at named
    cases named
    exact word_identifier valid (suffixed_word (base_word debugNames index function) index copies)

def chained : List Wasm.Function := [[0x61], [0x61], [0x61, 0x5f, 0x31], [0x62]].map fun name => ⟨name, 0, none, [], [.endBlock]⟩

theorem chained_settle : functionNames chained true = ["a_0", "a_1_1", "a_1_2", "b"] ∧
    (functionNames chained true)[3]? = some "b" ∧ isIdentifier (ofString (helper "w2l" "a_1_1")) = true := by
  obtain ⟨rounds, few, -, -, -, -, -, each⟩ := function_names_settle chained true
  have table : ∀ round < 4, (afterRounds (chained.mapIdx (baseName true)) round).length = 4 ∧
      ∀ other < 4, other ≠ 3 →
        (afterRounds (chained.mapIdx (baseName true)) round)[other]? ≠ some "b" := by decide +kernel
  refine ⟨by decide +kernel, ?_, ?_⟩
  · refine (each 3 _ rfl).2.1 (by decide +kernel) fun round before other different => ?_
    obtain ⟨length, free⟩ := table round (Nat.lt_of_lt_of_le before few)
    by_cases inside : other < 4
    · exact free other inside different
    · rw [List.getElem?_eq_none (length ▸ Nat.le_of_not_lt inside)]
      nofun
  · exact (each 1 _ rfl).2.2 "a_1_1" (by decide +kernel) "w2l" (by decide +kernel)

end WasmLua.Compile
