import Mathlib
import WasmLua.Binary.Decode

/-!
The name section as a grammar, apart from how it is read. A payload that the grammar derives is read to
its end, and any other one up to the first piece that the grammar does not derive.
-/

namespace WasmLua.Binary

open Reader
open List
open Wasm (Module)

/-- The LEB128 forms of a number in so many bits, the shortest one and those with more bytes. -/
inductive Leb : Nat → Bytes → Nat → Prop
  | last {width : Nat} (byte : UInt8) (final : byte < 0x80) (fits : byte.toNat < 2 ^ width) :
    Leb width [byte] byte.toNat
  | more {width high : Nat} {bytes : Bytes} (byte : UInt8) (goes : ¬ byte < 0x80) (room : 7 < width)
    (rest : Leb (width - 7) bytes high) : Leb width (byte :: bytes) (byte.toNat - 128 + 128 * high)

def Index (bytes : Bytes) (index : UInt32) : Prop := Leb 32 bytes index.toNat

def Named (bytes name : Bytes) : Prop := ∃ count size, bytes = size ++ name ∧ Index size count ∧ name.length = count.toNat

def Entry (bytes : Bytes) (entry : UInt32 × Bytes) : Prop :=
  ∃ index name, bytes = index ++ name ∧ Index index entry.1 ∧ Named name entry.2

inductive Listed : Bytes → List (UInt32 × Bytes) → Prop
  | nil : Listed [] []
  | cons {front back : Bytes} {entry : UInt32 × Bytes} {entries : List (UInt32 × Bytes)}
    (here : Entry front entry) (follow : Listed back entries) : Listed (front ++ back) (entry :: entries)

def Naming.ofEntry (entry : UInt32 × Bytes) : Naming := .function entry.1 entry.2

/-- What a subsection assigns; bytes behind its entries belong to it. -/
inductive Content : UInt8 → Bytes → List Naming → Prop
  | module {written name : Bytes} (here : Named written name) (extra : Bytes) :
    Content 0 (written ++ extra) [.module name]
  | functions {size list : Bytes} {count : UInt32} {entries : List (UInt32 × Bytes)}
    (counted : Index size count) (listed : Listed list entries) (all : entries.length = count.toNat)
    (extra : Bytes) : Content 1 (size ++ (list ++ extra)) (entries.map .ofEntry)
  | other {id : UInt8} (unknown : 2 ≤ id) (content : Bytes) : Content id content []

inductive Subsections : Bytes → List Naming → Prop
  | nil : Subsections [] []
  | cons {id : UInt8} {size content rest : Bytes} {count : UInt32} {names more : List Naming}
    (sized : Index size count) (whole : content.length = count.toNat) (here : Content id content names)
    (follow : Subsections rest more) : Subsections (id :: (size ++ (content ++ rest))) (names ++ more)

section Readers

variable {α β : Type} {reader : Reader α} {form : Bytes → α → Prop} {bytes : Bytes} {value : α}

/-- A reader takes exactly what a grammar derives. -/
def Takes (reader : Reader α) (form : Bytes → α → Prop) : Prop :=
  ∀ input value rest, reader input = .ok (value, rest) ↔ ∃ bytes, input = bytes ++ rest ∧ form bytes value

def Lacks (form : Bytes → α → Prop) (input : Bytes) : Prop := ∀ bytes rest value, input = bytes ++ rest → ¬ form bytes value

lemma takes_form (takes : Takes reader form) (here : form bytes value) (rest : Bytes) :
    reader (bytes ++ rest) = .ok (value, rest) :=
  (takes _ _ _).mpr ⟨bytes, rfl, here⟩

lemma takes_cases (takes : Takes reader form) (input : Bytes) :
    (∃ bytes rest value, input = bytes ++ rest ∧ form bytes value ∧ reader input = .ok (value, rest)) ∨
      Lacks form input ∧ ∃ fault, reader input = .error fault := by
  cases read : reader input with
  | ok found =>
    obtain ⟨bytes, split, here⟩ := (takes _ _ _).mp read
    exact .inl ⟨bytes, found.2, found.1, split, here, rfl⟩
  | error fault =>
    refine .inr ⟨?_, fault, rfl⟩
    rintro bytes rest value rfl here
    cases (takes_form takes here rest).symm.trans read

lemma takes_bind {next : α → Reader β} {after : α → Bytes → β → Prop} {both : Bytes → β → Prop}
    (first : Takes reader form) (second : ∀ value, Takes (next value) (after value))
    (same : ∀ bytes result, both bytes result ↔ ∃ value front back, bytes = front ++ back ∧ form front value ∧ after value back result) :
    Takes (reader >>= next) both := by
  intro input result rest
  simp only [same]
  change (reader input >>= fun found => next found.1 found.2) = _ ↔ _
  constructor
  · intro read
    cases step : reader input with
    | error fault =>
      rw [step] at read
      cases read
    | ok found =>
      rw [step] at read
      obtain ⟨front, split, here⟩ := (first _ _ _).mp step
      obtain ⟨back, more, there⟩ := (second _ _ _ _).mp read
      exact ⟨front ++ back, by rw [split, more, append_assoc], _, front, back, rfl, here, there⟩
  · rintro ⟨_, rfl, value, front, back, rfl, here, there⟩
    rw [append_assoc, takes_form first here]
    exact takes_form (second value) there rest

lemma takes_pure (value : α) : Takes (pure value) fun bytes result => bytes = [] ∧ result = value := by
  intro input result rest
  constructor
  · intro read
    cases read
    exact ⟨[], rfl, rfl, rfl⟩
  · rintro ⟨_, rfl, rfl, rfl⟩
    rfl

lemma takes_bytes (count : Nat) : Takes (Reader.bytes count) fun bytes value => bytes = value ∧ value.length = count := by
  intro input value rest
  simp only [Reader.bytes, splitAt_eq]
  constructor
  · intro read
    split at read
    · rename_i whole
      cases read
      exact ⟨_, (take_append_drop count input).symm, rfl, whole⟩
    · cases read
  · rintro ⟨_, rfl, rfl, rfl⟩
    rw [take_left, if_pos rfl, drop_left]

lemma leb_bound {width value : Nat} (form : Leb width bytes value) : value < 2 ^ width := by
  induction form with
  | last byte final fits => exact fits
  | @more width high bytes byte goes room rest ih =>
    have size := byte.toNat_lt
    have split : 2 ^ width = 128 * 2 ^ (width - 7) := by
      rw [show 128 = 2 ^ 7 from rfl, ← pow_add, Nat.add_sub_cancel' room.le]
    omega

lemma takes_unsigned (width : Nat) : Takes (unsigned width) (Leb width) := by
  intro input value rest
  constructor
  · intro read
    fun_induction unsigned width input generalizing value rest with
    | case2 width first after final fits =>
      cases read
      exact ⟨[first], rfl, .last first final fits⟩
    | case4 width first after goes room high behind found ih =>
      cases read
      obtain ⟨bytes, split, form⟩ := ih _ _ found
      exact ⟨first :: bytes, by rw [split]; rfl, .more first goes room form⟩
    | case1 | case3 | case5 | case6 => cases read
  · rintro ⟨bytes, rfl, form⟩
    induction form with
    | last byte final fits =>
      rw [singleton_append, unsigned, if_pos final, Nat.pow_eq, if_pos fits]
    | more byte goes room form ih => rw [cons_append, unsigned, if_neg goes, if_pos room, ih]

lemma takes_index : Takes u32 Index := by
  refine takes_bind (takes_unsigned 32) (fun number => takes_pure (UInt32.ofNat number)) fun bytes value => ?_
  constructor
  · intro form
    exact ⟨value.toNat, bytes, [], (append_nil bytes).symm, form, rfl, UInt32.ofNat_toNat.symm⟩
  · rintro ⟨number, front, _, rfl, form, rfl, rfl⟩
    rw [Index, append_nil, UInt32.toNat_ofNat_of_lt' (leb_bound form)]
    exact form

lemma takes_named : Takes Reader.blob Named := by
  refine takes_bind takes_index (fun count => takes_bytes count.toNat) fun bytes name => ?_
  constructor
  · rintro ⟨count, size, split, sized, whole⟩
    exact ⟨count, size, name, split, sized, rfl, whole⟩
  · rintro ⟨count, size, _, split, sized, rfl, whole⟩
    exact ⟨count, size, split, sized, whole⟩

lemma takes_entry : Takes (do return (← u32, ← blob)) Entry := by
  refine takes_bind takes_index (fun index =>
    takes_bind takes_named (fun name => takes_pure (index, name)) fun _ _ => Iff.rfl) ?_
  rintro bytes ⟨index, name⟩
  constructor
  · rintro ⟨front, back, split, here, there⟩
    exact ⟨index, front, back, split, here, name, back, [], (append_nil back).symm, there, rfl, rfl⟩
  · rintro ⟨_, front, _, rfl, here, _, back, _, rfl, there, rfl, same⟩
    cases same
    exact ⟨front, back, by rw [append_nil], here, there⟩

end Readers

section Reading

variable {names : List Naming} {payload content size rest : Bytes} {id : UInt8} {count : UInt32}
  {list : Bytes} {entries : List (UInt32 × Bytes)}

/-- The content of a subsection that ends before what it announces, with the names up to there. -/
inductive Broken : UInt8 → Bytes → List Naming → Prop
  | module {content : Bytes} (missing : Lacks Named content) : Broken 0 content []
  | count {content : Bytes} (missing : Lacks Index content) : Broken 1 content []
  | entry {size list rest : Bytes} {count : UInt32} {entries : List (UInt32 × Bytes)}
    (counted : Index size count) (listed : Listed list entries) (fewer : entries.length < count.toNat)
    (missing : Lacks Entry rest) : Broken 1 (size ++ (list ++ rest)) (entries.map .ofEntry)

lemma entries_step {input : Bytes} {entry : UInt32 × Bytes} (count : Nat)
    (read : (do return (← u32, ← blob) : Reader _) input = .ok (entry, rest)) :
    functionEntries (count + 1) input = (.ofEntry entry :: (functionEntries count rest).1, (functionEntries count rest).2) := by
  rw [functionEntries, read]
  rfl

lemma entries_read (listed : Listed list entries) (extra : Bytes) :
    functionEntries entries.length (list ++ extra) = (entries.map .ofEntry, true) := by
  induction listed with
  | nil => rfl
  | cons here follow ih =>
    rw [append_assoc, length_cons, entries_step _ (takes_form takes_entry here _), ih, map_cons]

lemma entries_found (count : Nat) (input : Bytes) : ∃ list rest entries, input = list ++ rest ∧ Listed list entries ∧
      functionEntries count input = (entries.map .ofEntry, decide (entries.length = count)) ∧
      (entries.length ≠ count → entries.length < count ∧ Lacks Entry rest) := by
  induction count generalizing input with
  | zero => exact ⟨[], input, [], rfl, .nil, rfl, fun fewer => absurd rfl fewer⟩
  | succ count ih =>
    rcases takes_cases takes_entry input with ⟨front, rest, entry, rfl, here, read⟩ | ⟨missing, fault, read⟩
    · obtain ⟨list, rest, entries, rfl, listed, found, broken⟩ := ih rest
      refine ⟨front ++ list, rest, entry :: entries, (append_assoc ..).symm, .cons here listed, ?_, ?_⟩
      · rw [entries_step _ read, found]
        simp
      · intro fewer
        exact (broken (by simpa using fewer)).imp_left Nat.succ_lt_succ
    · refine ⟨[], input, [], rfl, .nil, ?_, fun _ => ⟨Nat.succ_pos count, missing⟩⟩
      rw [functionEntries, read]
      rfl

lemma content_read (here : Content id content names) : subsectionNames id content = (names, true) := by
  cases here with
  | module here extra => rw [subsectionNames, takes_form takes_named here]
  | functions counted listed all extra =>
    rw [subsectionNames, takes_form takes_index counted]
    dsimp only
    rw [← all, entries_read listed]
  | other unknown content =>
    unfold subsectionNames
    split
    · exact absurd unknown (by decide)
    · exact absurd unknown (by decide)
    · rfl

lemma content_found (id : UInt8) (content : Bytes) : ∃ names complete, subsectionNames id content = (names, complete) ∧
      if complete then Content id content names else Broken id content names := by
  unfold subsectionNames
  split
  · rcases takes_cases takes_named content with ⟨written, extra, name, rfl, here, read⟩ | ⟨missing, fault, read⟩
    · exact ⟨[.module name], true, by rw [read], .module here extra⟩
    · exact ⟨[], false, by rw [read], .module missing⟩
  · rcases takes_cases takes_index content with ⟨size, rest, count, rfl, counted, read⟩ | ⟨missing, fault, read⟩
    · obtain ⟨list, rest, entries, rfl, listed, found, broken⟩ := entries_found count.toNat rest
      refine ⟨entries.map .ofEntry, decide (entries.length = count.toNat), by rw [read]; exact found, ?_⟩
      by_cases all : entries.length = count.toNat
      · rw [if_pos (decide_eq_true all)]
        exact .functions counted listed all rest
      · rw [if_neg (by simpa using all)]
        exact .entry counted listed (broken all).1 (broken all).2
    · exact ⟨[], false, by rw [read], .count missing⟩
  · rename_i first second
    have low : id.toNat ≠ 0 := fun same => first (UInt8.toNat_inj.mp same)
    have high : id.toNat ≠ 1 := fun same => second (UInt8.toNat_inj.mp same)
    exact ⟨[], true, rfl, .other (UInt8.le_iff_toNat_le.mpr ((Nat.two_le_iff _).mpr ⟨low, high⟩)) content⟩

/-- Where reading ends without a fault: at the end, or in a subsection that is not whole. -/
inductive Stops : Bytes → List Naming → Prop
  | done : Stops [] []
  | short {id : UInt8} {size rest : Bytes} {count : UInt32} (sized : Index size count)
    (fewer : rest.length < count.toNat) : Stops (id :: (size ++ rest)) []
  | broken {id : UInt8} {size content rest : Bytes} {count : UInt32} {names : List Naming}
    (sized : Index size count) (whole : content.length = count.toNat)
    (here : Broken id content names) : Stops (id :: (size ++ (content ++ rest))) names

/-- A subsection whose size cannot be read. -/
def Unsized (payload : Bytes) : Prop := ∃ id rest, payload = id :: rest ∧ Lacks Index rest

lemma names_header (fuel : Nat) (input : Bytes) : namesFrom (fuel + 1) (id :: input) =
    match u32 input with
    | .error _ => none
    | .ok (count, rest) =>
      if rest.length < count.toNat then some []
      else
        let names := subsectionNames id (rest.take count.toNat)
        if names.2 then (namesFrom fuel (rest.drop count.toNat)).map (names.1 ++ ·) else some names.1 := by
  have header : subsectionHeader (id :: input) = u32 input >>= fun found => .ok ((id, found.1), found.2) := rfl
  rw [namesFrom, header]
  · cases u32 input with
    | error fault => rfl
    | ok found =>
      have fewer : min found.1.toNat found.2.length < found.1.toNat ↔ found.2.length < found.1.toNat := by omega
      simp only [bind, Except.bind, splitAt_eq, length_take, fewer]
  · nofun

lemma names_whole (fuel : Nat) (sized : Index size count) (whole : content.length = count.toNat) :
    namesFrom (fuel + 1) (id :: (size ++ (content ++ rest))) =
      if (subsectionNames id content).2 then (namesFrom fuel rest).map ((subsectionNames id content).1 ++ ·)
      else some (subsectionNames id content).1 := by
  rw [names_header, takes_form takes_index sized]
  simp only [← whole, take_left, drop_left, length_append]
  rw [if_neg (by omega)]

lemma names_read (derived : Subsections payload names) (fuel : Nat) (enough : payload.length ≤ fuel) :
    namesFrom fuel payload = some names := by
  induction derived generalizing fuel with
  | nil => rw [namesFrom]
  | cons sized whole here follow ih =>
    cases fuel with
    | zero => cases enough
    | succ fuel =>
      simp only [length_cons, length_append] at enough
      rw [names_whole fuel sized whole, content_read here, ih fuel (by omega)]
      rfl

lemma names_found (fuel : Nat) (payload : Bytes) (enough : payload.length ≤ fuel) :
    ∃ front tail names more, payload = front ++ tail ∧ Subsections front names ∧
      (Stops tail more ∧ namesFrom fuel payload = some (names ++ more) ∨ Unsized tail ∧ namesFrom fuel payload = none) := by
  -- By induction on the fuel: what is behind a whole subsection is shorter than the payload.
  induction fuel generalizing payload with
  | zero =>
    rw [length_eq_zero_iff.mp (Nat.le_zero.mp enough)]
    exact ⟨[], [], [], [], rfl, .nil, .inl ⟨.done, rfl⟩⟩
  | succ fuel ih =>
    cases payload with
    | nil => exact ⟨[], [], [], [], rfl, .nil, .inl ⟨.done, rfl⟩⟩
    | cons id input =>
      rcases takes_cases takes_index input with ⟨size, rest, count, rfl, sized, read⟩ | ⟨missing, fault, read⟩
      · by_cases short : rest.length < count.toNat
        · refine ⟨[], _, [], [], rfl, .nil, .inl ⟨.short sized short, ?_⟩⟩
          simp only [names_header, read, if_pos short, append_nil]
        obtain ⟨content, rest, rfl, whole⟩ : ∃ content after, rest = content ++ after ∧ content.length = count.toNat :=
          ⟨_, _, (take_append_drop count.toNat rest).symm, length_take_of_le (by omega)⟩
        obtain ⟨names, complete, said, form⟩ := content_found id content
        simp only [length_cons, length_append] at enough
        cases complete with
        | false =>
          refine ⟨[], _, [], names, rfl, .nil, .inl ⟨.broken sized whole form, ?_⟩⟩
          rw [names_whole fuel sized whole, said]
          rfl
        | true =>
          obtain ⟨front, tail, others, more, rfl, derived, ends⟩ := ih rest (by omega)
          refine ⟨_, tail, names ++ others, more, ?_, .cons sized whole form derived, ?_⟩
          · simp
          · rw [names_whole fuel sized whole, said]
            exact ends.imp (And.imp_right fun same => by simp [same]) (And.imp_right fun same => by simp [same])
      · refine ⟨[], _, [], [], rfl, .nil, .inr ⟨⟨id, input, rfl, missing⟩, ?_⟩⟩
        rw [names_header, read]

end Reading

section Renaming

def Naming.module? : Naming → Option Bytes
  | .module name => some name
  | .function _ _ => none

def Naming.function? (place : Nat) : Naming → Option Bytes
  | .module _ => none
  | .function index name => if index.toNat = place then some name else none

/-- A module with the last names that a list assigns to it and to its functions, and nothing else new. -/
def renamed (module : Module) (names : List Naming) : Module :=
  { module with
    name := (names.filterMap Naming.module?).getLast?.getD module.name
    functions := module.functions.mapIdx fun place function =>
      { function with name := (names.filterMap (Naming.function? place)).getLast?.getD function.name } }

lemma apply_renamed (module : Module) (names : List Naming) : names.foldl Naming.apply module = renamed module names := by
  induction names using reverseRecOn with
  | nil =>
    have same : module.functions.mapIdx (fun _ function => function) = module.functions := ext_getElem? (by simp)
    exact (congrArg (fun functions => { module with functions := functions }) same).symm
  | append_singleton names last ih =>
    rw [foldl_append, ih]
    cases last with
    | module name => simp [Naming.apply, renamed, Naming.module?, Naming.function?]
    | function index name =>
      have there : setName (renamed module names).functions index.toNat name
          = (renamed module (names ++ [.function index name])).functions := by
        refine ext_getElem? fun place => ?_
        simp only [setName, renamed, getElem?_modify, getElem?_mapIdx, filterMap_append]
        by_cases same : index.toNat = place
        · simp [Naming.function?, same, Option.map_map]
          rfl
        · simp [Naming.function?, same]
      simp only [foldl_cons, foldl_nil, Naming.apply, there]
      simp [renamed, Naming.module?]

/-- Of any payload the names before the first malformed piece are kept, and what stands behind it has no
effect. Only a subsection whose size cannot be read is a fault. -/
theorem names_before_break_kept (module : Module) (payload : Bytes) :
    ∃ front tail names more, payload = front ++ tail ∧ Subsections front names ∧
      (Stops tail more ∧ applyNames module payload = some (renamed module (names ++ more)) ∨
        Unsized tail ∧ applyNames module payload = none) := by
  obtain ⟨front, tail, names, more, split, derived, ends⟩ := names_found _ payload (Nat.le_refl _)
  refine ⟨front, tail, names, more, split, derived, ends.imp (And.imp_right ?_) (And.imp_right ?_)⟩
  · intro read
    rw [applyNames, Binary.names, read, Option.map_some, apply_renamed]
  · intro read
    rw [applyNames, Binary.names, read, Option.map_none]

theorem unsized_names_refused : applyNames .empty [0x00] = none ∧
    decode (magic ++ [1, 0, 0, 0, 0, 6, 4, 0x6e, 0x61, 0x6d, 0x65, 0x00]) = .error .nameSection := by
  decide +kernel

/-- The names that the subsections of a payload assign are applied in order, whichever LEB128 forms the
sizes and indices have. -/
theorem encoded_names_applied (module : Module) (payload : Bytes) (names : List Naming)
    (derived : Subsections payload names) : applyNames module payload = some (renamed module names) := by
  rw [applyNames, Binary.names, names_read derived _ (Nat.le_refl _), Option.map_some, apply_renamed]

/-- The later of two names of function 1 stays, function 5 is out of range, and the size 4 of the unknown
subsection has a second byte. -/
theorem crossed_names_applied :
    let payload := [1, 11, 3, 1, 1, 0x61, 5, 1, 0x62, 1, 1, 0x63, 0xff, 9, 0x84, 0, 1, 2, 3, 4, 0, 2, 1, 0x6d]
    let module : Module := { Module.empty with functions := replicate 2 ⟨[], 0, none, [], []⟩ }
    Subsections payload [.function 1 [0x61], .function 5 [0x62], .function 1 [0x63], .module [0x6d]] ∧
      applyNames module payload = some { module with
        name := [0x6d]
        functions := [⟨[], 0, none, [], []⟩, ⟨[0x63], 0, none, [], []⟩] } := by
  intro payload module
  have byte (value : UInt8) (small : value < 0x80) : Index [value] value.toUInt32 := by
    rw [Index, UInt8.toNat_toUInt32]
    exact .last value small (Nat.lt_trans value.toNat_lt (by decide))
  have padded : Index [0x84, 0] 4 := .more 0x84 (by decide) (by decide) (.last 0 (by decide) (by decide))
  have named (letter : UInt8) : Named [1, letter] [letter] := ⟨1, [1], rfl, byte 1 (by decide), rfl⟩
  have entry (index letter : UInt8) (small : index < 0x80) :
      Entry [index, 1, letter] (index.toUInt32, [letter]) := ⟨_, _, rfl, byte index small, named letter⟩
  have list := Listed.cons (entry 1 0x61 (by decide))
    (.cons (entry 5 0x62 (by decide)) (.cons (entry 1 0x63 (by decide)) .nil))
  have derived := Subsections.cons (byte 11 (by decide)) rfl (.functions (byte 3 (by decide)) list rfl [0xff])
    (.cons padded rfl (@Content.other 9 (by decide) [1, 2, 3, 4]) (.cons (byte 2 (by decide)) rfl (.module (named 0x6d) []) .nil))
  exact ⟨derived, (encoded_names_applied module payload _ derived).trans (by decide +kernel)⟩

end Renaming

end WasmLua.Binary
