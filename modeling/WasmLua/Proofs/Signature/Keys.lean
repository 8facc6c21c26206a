import Mathlib
import WasmLua.Exec.Table

namespace WasmLua.Wasm

open List
open ValueType

def ValueType.Named (type : ValueType) : Prop := type ∈ [i32, .i64, .f32, .f64, .funcref, .externref]

instance (type : ValueType) : Decidable type.Named :=
  inferInstanceAs (Decidable (type ∈ [i32, .i64, .f32, .f64, .funcref, .externref]))

def typeLetters : Bytes := ['i', 'I', 'f', 'F', 'a', 'e'].map Char.toUInt8

namespace ValueType

variable {type : ValueType} {letter : UInt8} {letters : Bytes}

lemma of_key_key (named : type.Named) : ofKey? type.key = some type := by
  cases type with
  | any | other => simp [Named] at named
  | i32 | i64 | f32 | f64 | funcref | externref => rfl

lemma key_of_key (read : ofKey? letter = some type) : type.Named ∧ type.key = letter := by
  unfold ofKey? at read
  split at read
  case h_7 => cases read
  all_goals
    cases read
    exact ⟨by decide, rfl⟩

lemma key_letter (type : ValueType) (named : type.Named) : type.key ∈ typeLetters := by
  cases type with
  | any | other => simp [Named] at named
  | i32 | i64 | f32 | f64 | funcref | externref => decide

lemma of_key_letter (known : letter ∈ typeLetters) : ∃ type, ofKey? letter = some type := by
  have each : ∀ letter ∈ typeLetters, (ofKey? letter).isSome := by decide +kernel
  exact Option.isSome_iff_exists.mp (each letter known)

lemma list_of_keys {types : List ValueType} (named : ∀ type ∈ types, type.Named) : (types.map key).mapM ofKey? = some types := by
  induction types with
  | nil => rfl
  | cons type rest ih =>
    obtain ⟨first, others⟩ := forall_mem_cons.mp named
    rw [map_cons, mapM_cons, of_key_key first, ih others]
    rfl

lemma keys_of_list (types : List ValueType) (read : letters.mapM ofKey? = some types) :
    (∀ type ∈ types, type.Named) ∧ types.map key = letters := by
  induction letters generalizing types with
  | nil =>
    cases read
    exact ⟨by simp, rfl⟩
  | cons letter rest ih =>
    rw [mapM_cons] at read
    obtain ⟨type, first, read⟩ := Option.bind_eq_some_iff.mp read
    obtain ⟨others, more, same⟩ := Option.bind_eq_some_iff.mp read
    cases same
    obtain ⟨named, keyed⟩ := key_of_key first
    obtain ⟨allNamed, allKeyed⟩ := ih others more
    exact ⟨forall_mem_cons.mpr ⟨named, allNamed⟩, by rw [map_cons, keyed, allKeyed]⟩

lemma letters_read (known : ∀ letter ∈ letters, letter ∈ typeLetters) : ∃ types, letters.mapM ofKey? = some types := by
  induction letters with
  | nil => exact ⟨[], rfl⟩
  | cons letter rest ih =>
    obtain ⟨first, others⟩ := forall_mem_cons.mp known
    obtain ⟨type, read⟩ := of_key_letter first
    obtain ⟨types, more⟩ := ih others
    refine ⟨type :: types, ?_⟩
    rw [mapM_cons, read, more]
    rfl

end ValueType

namespace Signature

def Named (signature : Signature) : Prop := ∀ type ∈ signature.params ++ signature.results, type.Named

instance (signature : Signature) : Decidable signature.Named :=
  inferInstanceAs (Decidable (∀ type ∈ signature.params ++ signature.results, type.Named))

/-- A text of the form of a key: `p` and type characters, then `r` and type characters. -/
def IsKey (key : Bytes) : Prop := ∃ params results, key = 'p'.toUInt8 :: params ++ 'r'.toUInt8 :: results ∧
    ∀ letter ∈ params ++ results, letter ∈ typeLetters

lemma clear_of_separator {letters : Bytes} (known : ∀ letter ∈ letters, letter ∈ typeLetters) :
    ∀ letter ∈ letters, (letter != 0x72) = true := by
  have each : ∀ letter ∈ typeLetters, (letter != 0x72) = true := by decide +kernel
  exact fun letter member => each letter (known letter member)

lemma of_key_parts {params : Bytes} (results : Bytes) (known : ∀ letter ∈ params, letter ∈ typeLetters) :
    ofKey? (0x70 :: params ++ 0x72 :: results) = (do
      let params ← params.mapM ValueType.ofKey?
      let results ← results.mapM ValueType.ofKey?
      return ⟨params, results⟩) := by
  have clear := clear_of_separator known
  rw [cons_append, ofKey?, dropWhile_append_of_pos clear, takeWhile_append_of_pos clear]
  simp

lemma key_letters {types : List ValueType} (named : ∀ type ∈ types, type.Named) :
    ∀ letter ∈ types.map ValueType.key, letter ∈ typeLetters := by
  intro letter member
  obtain ⟨type, inside, rfl⟩ := mem_map.mp member
  exact type.key_letter (named type inside)

lemma of_key_key (signature : Signature) (named : signature.Named) : ofKey? signature.key = some signature := by
  obtain ⟨params, results⟩ := forall_mem_append.mp named
  rw [key, of_key_parts _ (key_letters params), ValueType.list_of_keys params, ValueType.list_of_keys results]
  rfl

lemma key_of_key (text : Bytes) (signature : Signature) (read : ofKey? text = some signature) :
    signature.Named ∧ signature.key = text := by
  unfold ofKey? at read
  split at read
  · rename_i rest
    split at read
    · rename_i separator results found
      obtain ⟨params, first, read⟩ := Option.bind_eq_some_iff.mp read
      obtain ⟨more, second, same⟩ := Option.bind_eq_some_iff.mp read
      cases same
      have mark : separator = 0x72 := by
        have stops := head?_dropWhile_not (· != 0x72) rest
        rw [found] at stops
        simpa using stops
      obtain ⟨paramsNamed, paramsKeyed⟩ := keys_of_list _ first
      obtain ⟨resultsNamed, resultsKeyed⟩ := keys_of_list _ second
      refine ⟨forall_mem_append.mpr ⟨paramsNamed, resultsNamed⟩, ?_⟩
      have whole := takeWhile_append_dropWhile (p := (· != 0x72)) (l := rest)
      rw [found, mark] at whole
      rw [key, paramsKeyed, resultsKeyed, cons_append, whole]
    · cases read
  · cases read

lemma of_key_accepts (text : Bytes) : (ofKey? text).isSome = true ↔ IsKey text := by
  constructor
  · intro accepted
    obtain ⟨signature, read⟩ := Option.isSome_iff_exists.mp accepted
    obtain ⟨named, rfl⟩ := key_of_key text signature read
    refine ⟨_, _, rfl, ?_⟩
    rw [← map_append]
    exact key_letters named
  · rintro ⟨params, results, rfl, known⟩
    obtain ⟨first, second⟩ := forall_mem_append.mp known
    obtain ⟨paramTypes, paramsRead⟩ := letters_read first
    obtain ⟨resultTypes, resultsRead⟩ := letters_read second
    have parts := of_key_parts results first
    rw [paramsRead, resultsRead] at parts
    exact Option.isSome_iff_exists.mpr ⟨⟨paramTypes, resultTypes⟩, parts⟩

variable {a b : Signature}

lemma key_inj (first : a.Named) (second : b.Named) : a.key = b.key ↔ a = b := by
  constructor
  · intro same
    have read := of_key_key a first
    rw [same, of_key_key b second] at read
    exact (Option.some.inj read).symm
  · rintro rfl
    rfl

lemma lists_iff : a.params = b.params ∧ a.results = b.results ↔ a = b := by
  cases a
  cases b
  rw [Signature.mk.injEq]

lemma same_iff (a b : Signature) (first : a.Named) (second : b.Named) :
    a.same b = true ↔ a.params = b.params ∧ a.results = b.results := by
  rw [same, beq_iff_eq, key_inj first second, lists_iff]

end Signature

end WasmLua.Wasm

namespace WasmLua.Exec.Table

open Arithmetic
open Wasm (Signature)

/-- Keys and signatures of the named types correspond one to one, and a text is read as a key
exactly when it has a key's form. -/
theorem signature_keys_exact : (∀ signature : Signature, signature.Named → Signature.ofKey? signature.key = some signature) ∧
    (∀ text, (Signature.ofKey? text).isSome = true ↔ Signature.IsKey text) ∧
    (∀ text signature, Signature.ofKey? text = some signature → signature.Named ∧ signature.key = text) ∧
    (∀ a b : Signature, a.Named → b.Named → (a.same b = true ↔ a.params = b.params ∧ a.results = b.results)) ∧
    ∀ (table : Table) (index : Number) (wanted found : Signature) (owner function : Nat) (call : Callable),
      wanted.Named → found.Named → table.size.le (unsigned index) = false →
      table.element (unsigned index) = .ref owner function found.key call →
      (wanted.params = found.params ∧ wanted.results = found.results → table.callee index wanted.key = .ok call) ∧
      (¬ (wanted.params = found.params ∧ wanted.results = found.results) →
        table.callee index wanted.key = .error (.trap .callTypeMismatch)) := by
  refine ⟨Signature.of_key_key, Signature.of_key_accepts, Signature.key_of_key, Signature.same_iff, ?_⟩
  intro table index wanted found owner function call named alsoNamed inside held
  simp only [Table.callee, inside, held, Signature.key_inj alsoNamed named, Bool.false_eq_true, if_false]
  rw [Signature.lists_iff, eq_comm]
  exact ⟨fun same => if_pos same, fun different => if_neg different⟩

def keyed : Table := (Table.empty (.ofInt 1) (.ofInt 1)).put (.ofInt 0)
    (.ref 0 3 (Signature.key ⟨[.i32, .externref], [.i64]⟩) (.defined (.known 0) 3))

theorem keyed_element : Signature.ofKey? (Signature.key ⟨[.i32, .externref], [.i64]⟩) = some ⟨[.i32, .externref], [.i64]⟩ ∧
      keyed.callee (.ofInt 0) (Signature.key ⟨[.i32, .externref], [.i64]⟩) = .ok (.defined (.known 0) 3) ∧
      keyed.callee (.ofInt 0) (Signature.key ⟨[.i32], [.externref, .i64]⟩) = .error (.trap .callTypeMismatch) := by
  have first : unsigned (Number.ofInt 0) = .ofInt 0 := by decide +kernel
  have inside : keyed.size.le (unsigned (Number.ofInt 0)) = false := by decide +kernel
  have held : keyed.element (unsigned (Number.ofInt 0))
      = .ref 0 3 (Signature.key ⟨[.i32, .externref], [.i64]⟩) (.defined (.known 0) 3) := by
    rw [first]
    simp [keyed, Table.put, Table.element]
  obtain ⟨read, -, -, -, checked⟩ := signature_keys_exact
  refine ⟨read _ (by decide), ?_, ?_⟩
  · exact (checked keyed _ _ _ 0 3 _ (by decide) (by decide) inside held).1 ⟨rfl, rfl⟩
  · exact (checked keyed _ _ _ 0 3 _ (by decide) (by decide) inside held).2 (by decide)

end WasmLua.Exec.Table
