import WasmLua.Exec.Code
import WasmLua.Proofs.Table.Content
import WasmLua.Proofs.Twin.Mirror

namespace WasmLua.Exec

open Memory Conversion Value List

inductive Matched {ε α β : Type} (related : α → β → Prop) : Except ε α → Except ε β → Prop where
  | ok {a : α} {b : β} (both : related a b) : Matched related (.ok a) (.ok b)
  | error (fault : ε) : Matched related (.error fault) (.error fault)

section Matched

variable {ε α β γ δ : Type} {first : α → β → Prop} {second : γ → δ → Prop}

variable {x : Except ε α} {y : Except ε β}

lemma matched_map
    (matched : Matched first x y) (follows : ∀ a b, first a b → second (f a) (g b)) : Matched second (f <$> x) (g <$> y) := by
  cases matched with
  | ok both => exact .ok (follows _ _ both)
  | error fault => exact .error fault

lemma matched_weaken (weaken : ∀ a b, first a b → weaker a b) (matched : Matched first x y) : Matched weaker x y := by
  cases matched with
  | ok both => exact .ok (weaken _ _ both)
  | error fault => exact .error fault

variable {f : α → Except ε γ}

lemma matched_bind (matched : Matched first x y) (follows : ∀ a b, first a b → Matched second (f a) (g b)) :
    Matched second (x >>= f) (y >>= g) := by
  cases matched with
  | ok both => exact follows _ _ both
  | error fault => exact .error fault

lemma matched_after (follows : ∀ value, Matched second (f value) (g value)) : Matched second (x >>= f) (x >>= g) := by
  cases x with
  | ok value => exact follows value
  | error fault => exact .error fault

lemma matched_same (result : Except ε α) : Matched (fun a b => b = a) result result := by
  cases result with
  | ok value => exact .ok rfl
  | error fault => exact .error fault

end Matched

namespace Mirror

variable (mirror : Mirror) (limit : Nat)

def Shows (value image : Value) : Prop := mirror.inside limit value ∧ image = value.rename mirror.names

def Makes (made image : Made) : Prop := made.All (mirror.inside limit) ∧ image = made.rename mirror.names

def Lists (values images : List Value) : Prop :=
  (∀ value ∈ values, mirror.inside limit value) ∧ images = values.map (rename mirror.names)

variable {mirror} {limit}

lemma shows_number {number : Number} : mirror.Shows limit (.number number) (.number number) := ⟨mirror.number, rfl⟩

lemma makes_pair :
    mirror.Makes limit (.fresh (.number low) (.number high)) (.fresh (.number low) (.number high)) :=
  ⟨⟨mirror.number, mirror.number⟩, rfl⟩

lemma shows_null : mirror.Shows limit .null .null := ⟨mirror.null, rfl⟩

lemma shows_zero_pair (positive : 0 < limit) : mirror.Shows limit zeroPair zeroPair := by
  refine ⟨mirror.zero positive, ?_⟩
  rw [zeroPair, rename, mirror.names.zero]
  rfl

variable {larger : Nat} {value image negZero negZero' : Value} {made zero zero' : Made}
  {values images : List Value} {address index : Number}

lemma shows_mono (le : limit ≤ larger) (shows : mirror.Shows limit value image) : mirror.Shows larger value image :=
  ⟨mirror.mono le shows.1, shows.2⟩

lemma makes_held (shows : mirror.Shows limit value image) : mirror.Makes limit (.held value) (.held image) :=
  ⟨shows.1, congrArg Made.held shows.2⟩

lemma makes_mono (le : limit ≤ larger) {image : Made} (makes : mirror.Makes limit made image) :
    mirror.Makes larger made image := by
  refine ⟨?_, makes.2⟩
  cases made with
  | held value => exact mirror.mono le makes.1
  | fresh low high => exact ⟨mirror.mono le makes.1.1, mirror.mono le makes.1.2⟩

lemma lists_mono (le : limit ≤ larger) (shows : mirror.Lists limit values images) : mirror.Lists larger values images :=
  ⟨fun value member => mirror.mono le (shows.1 value member), shows.2⟩

lemma lists_nil : mirror.Lists limit [] [] := ⟨nofun, rfl⟩

lemma lists_cons (head : mirror.Shows limit value image) (tail : mirror.Lists limit values images) :
    mirror.Lists limit (value :: values) (image :: images) := by
  refine ⟨forall_mem_cons.mpr ⟨head.1, tail.1⟩, ?_⟩
  rw [head.2, tail.2, map_cons]

section

variable (shows : mirror.Lists limit values images)

include shows

lemma lists_getD (index : Nat) :
    mirror.Shows limit (values.getD index .null) (images.getD index .null) := by
  obtain ⟨inside, rfl⟩ := shows
  rw [getD_eq_getElem?_getD, getD_eq_getElem?_getD, getElem?_map]
  cases found : values[index]? with
  | none => exact shows_null
  | some value => exact ⟨inside value (mem_of_getElem? found), rfl⟩

lemma lists_head :
    mirror.Shows limit (values.head?.getD .null) (images.head?.getD .null) := by
  have first := lists_getD shows 0
  rwa [getD_eq_getElem?_getD, getD_eq_getElem?_getD, ← head?_eq_getElem?, ← head?_eq_getElem?] at first

lemma lists_tail : mirror.Lists limit values.tail images.tail := by
  obtain ⟨inside, rfl⟩ := shows
  exact ⟨fun value member => inside value (mem_of_mem_tail member), map_tail.symm⟩

lemma lists_set (index : Nat) (new : mirror.Shows limit value image) :
    mirror.Lists limit (values.set index value) (images.set index image) := by
  obtain ⟨inside, rfl⟩ := shows
  obtain ⟨also, rfl⟩ := new
  refine ⟨fun found member => ?_, map_set.symm⟩
  rcases mem_or_eq_of_mem_set member with old | rfl
  · exact inside found old
  · exact also

end

section Outcomes

lemma uniform_value (run : ∀ f : NumericMap (Local mirror limit) Value, PairMap f (LocalMade mirror limit) Made →
      Except Fault Value) (uniform : ∀ f g, run f g = f.map <$> result) :
    Matched (mirror.Shows limit) (run _ (LocalMade.kept mirror limit)) (run _ (LocalMade.renamed mirror limit)) := by
  rw [uniform, uniform]
  cases result with
  | ok value => exact .ok ⟨value.property, rfl⟩
  | error fault => exact .error fault

lemma uniform_made (run : ∀ f : NumericMap (Local mirror limit) Value,
      PairMap f (LocalMade mirror limit) Made → Except Fault Made)
    (uniform : ∀ f g, run f g = g.map <$> result) :
    Matched (mirror.Makes limit) (run _ (LocalMade.kept mirror limit)) (run _ (LocalMade.renamed mirror limit)) := by
  rw [uniform, uniform]
  cases result with
  | ok made => exact .ok ⟨made.property, rfl⟩
  | error fault => exact .error fault

lemma matched_held (matched : Matched (mirror.Shows limit) x y) :
    Matched (mirror.Makes limit) (Made.held <$> x) (Made.held <$> y) :=
  matched_map matched fun _ _ => makes_held

lemma matched_bool (same : y = x) :
    Matched (mirror.Makes limit) (Made.ofBool <$> x) (Made.ofBool <$> y) := by
  subst same
  exact matched_map (matched_same y) fun _ _ same => same ▸ makes_held shows_number

end Outcomes

section Operations

variable {a a' b b' : Value}

lemma integer_matched (zeros : mirror.Makes limit zero zero') (type : Wasm.IntType)
    (op : Wasm.IntBinary) (left : mirror.Shows limit a a') (right : mirror.Shows limit b b') :
    Matched (mirror.Makes limit) (integer zero type op a b) (integer zero' type op a' b') := by
  obtain ⟨inside, rfl⟩ := left
  obtain ⟨also, rfl⟩ := right
  obtain ⟨around, rfl⟩ := zeros
  cases type with
  | i32 =>
    exact matched_held (uniform_value (fun f _ => I32.binary op (f.map ⟨a, inside⟩) (f.map ⟨b, also⟩)) fun f _ => f.word_binary op _ _)
  | i64 =>
    exact uniform_made (fun _ g => I64.binary (g.map ⟨zero, around⟩) op (g.map ⟨.held a, inside⟩)
      (g.map ⟨.held b, also⟩)) fun _ g => g.binary _ op _ _

lemma reshape_matched (negZeros : mirror.Shows limit negZero negZero')
    (zeros : mirror.Makes limit zero zero') (op : Wasm.Conversion) (shows : mirror.Shows limit a a') :
    Matched (mirror.Makes limit) (reshape negZero zero op a) (reshape negZero' zero' op a') := by
  obtain ⟨inside, rfl⟩ := shows
  obtain ⟨around, rfl⟩ := zeros
  obtain ⟨below, rfl⟩ := negZeros
  let own : Local mirror limit := ⟨a, inside⟩
  let pair : LocalMade mirror limit := ⟨.held a, inside⟩
  let least : Local mirror limit := ⟨negZero, below⟩
  let none : LocalMade mirror limit := ⟨zero, around⟩
  cases op with
  | wrap => exact matched_held (uniform_value (fun _ g => I64.wrap (g.map pair)) fun _ g => g.wrap)
  | trunc type width sign =>
    cases type with
    | i32 =>
      exact matched_held (uniform_value (fun f _ => toI32 sign (f.map own)) fun f _ => f.to_i32 _ _)
    | i64 => exact uniform_made (fun f _ => toI64 sign (f.map own)) fun _ g => g.to_i64 _ _
  | truncSat type width sign =>
    cases type with
    | i32 =>
      exact matched_held (uniform_value (fun f _ => saturateI32 sign (f.map own)) fun f _ => f.saturate_i32 _ _)
    | i64 =>
      exact uniform_made (fun f g => saturateI64 (g.map none) sign (f.map own)) fun _ g => g.saturate_i64 _ _ _
  | extend sign =>
    cases sign with
    | signed => exact uniform_made (fun f _ => I64.extendS (f.map own)) fun _ g => g.extend_signed _
    | unsigned => exact uniform_made (fun f _ => I64.extendU (f.map own)) fun _ g => g.extend_unsigned _
  | toBits type =>
    cases type with
    | i32 =>
      exact matched_held (uniform_value (fun f _ => bits32 (f.map own)) fun f _ => f.bits32)
    | i64 => exact uniform_made (fun f _ => bits64 (f.map own)) fun _ g => g.bits64 _
  | ofBits type =>
    cases type with
    | i32 =>
      exact matched_held (uniform_value (fun f _ => ofBits32 (f.map least) (f.map own)) fun f _ => f.of_bits32 _ _)
    | i64 =>
      exact matched_held (uniform_value (fun f g => ofBits64 (f.map least) (g.map pair)) fun _ g => g.of_bits64 _ _)
  | extend8 type =>
    cases type with
    | i32 =>
      exact matched_held (uniform_value (fun f _ => I32.extend8 (f.map own)) fun f _ => f.narrow_byte _)
    | i64 => exact uniform_made (fun _ g => I64.extend8 (g.map pair)) fun _ g => g.extend_byte _
  | extend16 type =>
    cases type with
    | i32 =>
      exact matched_held (uniform_value (fun f _ => I32.extend16 (f.map own)) fun f _ => f.narrow_half _)
    | i64 => exact uniform_made (fun _ g => I64.extend16 (g.map pair)) fun _ g => g.extend_half _
  | extend32 => exact uniform_made (fun _ g => I64.extend32 (g.map pair)) fun _ g => g.extend_word _
  | convert type width sign | demote | promote => exact .ok ⟨inside, rfl⟩

lemma byte_shown (shows : mirror.Shows limit a a') : byteOf a' = byteOf a := by
  obtain ⟨-, rfl⟩ := shows
  have cut : Numeric.mod (a.rename mirror.names) (.ofInt 256) = Numeric.mod a (.ofInt 256) :=
    arith_rename mirror.names a (.ofInt 256)
  rw [byteOf, byteOf, cut]

lemma store_narrow_shown (size : Number) (width : Wasm.Width) (address : Number) (offset : UInt32)
    (shows : mirror.Shows limit a a') : storeNarrow size width address offset a' = storeNarrow size width address offset a := by
  have byte := byte_shown shows
  obtain ⟨-, rfl⟩ := shows
  cases width <;> simp only [storeNarrow, byte, rename_to_number]

lemma word_shown {image : Made} (makes : mirror.Makes limit made image) : wordOf image = wordOf made := by
  obtain ⟨-, rfl⟩ := makes
  cases made with
  | held value =>
    simp only [wordOf, Made.rename, Made.halves, halves_rename]
    cases value.halves with
    | error fault => rfl
    | ok pair => simp only [ok_map, ok_bind, Prod.map, rename_to_number]
  | fresh low high => simp only [wordOf, Made.rename, Made.halves, ok_bind, rename_to_number]

lemma store_shown (size : Number) (access : Wasm.Store) (offset : UInt32) (shows : mirror.Shows limit a a') :
    store size access address offset a' = store size access address offset a := by
  have same {α γ : Type} {related : α → α → Prop} {x y : Except Fault α} {f : α → Except Fault γ}
      (matched : Matched related x y) (follows : ∀ value image, related value image → f image = f value) :
      y >>= f = x >>= f := by
    cases matched with
    | ok both => exact follows _ _ both
    | error fault => rfl
  cases access with
  | full type =>
    cases type with
    | int type =>
      cases type with
      | i32 => exact store_narrow_shown size .w32 address offset shows
      | i64 =>
        have word : wordOf (.held a') = wordOf (.held a) := word_shown (makes_held shows)
        simp only [store, word]
    | float type =>
      obtain ⟨inside, rfl⟩ := shows
      cases type with
      | f32 =>
        have bits := uniform_value (fun f _ => bits32 (f.map ⟨a, inside⟩)) fun f _ => f.bits32
        exact same bits fun _ _ word => store_narrow_shown size .w32 address offset word
      | f64 =>
        have bits := uniform_made (fun f _ => bits64 (f.map ⟨a, inside⟩)) fun _ g => g.bits64 _
        refine same bits fun _ _ word => ?_
        rw [word_shown word]
  | narrow type width =>
    cases type with
    | i32 => exact store_narrow_shown size width address offset shows
    | i64 =>
      obtain ⟨inside, rfl⟩ := shows
      simp only [store, halves_rename]
      cases both : a.halves with
      | error fault => rfl
      | ok pair =>
        have low : mirror.Shows limit pair.1 (pair.1.rename mirror.names) := ⟨(halves_inside inside both).1, rfl⟩
        exact store_narrow_shown size width address offset low

lemma load_matched {memory : Memory} (negZeros : mirror.Shows limit negZero negZero') (access : Wasm.Load) (offset : UInt32) :
    Matched (mirror.Makes limit) (memory.load negZero access address offset) (memory.load negZero' access address offset) := by
  obtain ⟨below, rfl⟩ := negZeros
  let least : Local mirror limit := ⟨negZero, below⟩
  let word (number : Number) : Local mirror limit := ⟨.number number, mirror.number⟩
  cases access with
  | full type =>
    cases type with
    | int type =>
      cases type with
      | i32 => exact matched_after fun start => matched_after fun value => .ok (makes_held shows_number)
      | i64 => exact matched_after fun start => .ok makes_pair
    | float type =>
      cases type with
      | f32 =>
        refine matched_after fun start => ?_
        have read := uniform_value (fun f _ => ofBits32 (f.map least)
          (f.map (word (memory.read32 start)))) fun f _ => f.of_bits32 _ _
        exact matched_bind read fun _ _ shows => .ok (makes_held shows)
      | f64 =>
        refine matched_after fun start => ?_
        let pair : LocalMade mirror limit := ⟨pairOf (memory.read64 start), mirror.number, mirror.number⟩
        have read := uniform_value (fun f g => ofBits64 (f.map least) (g.map pair)) fun _ g => g.of_bits64 _ _
        exact matched_bind read fun _ _ shows => .ok (makes_held shows)
  | narrow type width sign =>
    cases type with
    | i32 => exact matched_after fun value => .ok (makes_held shows_number)
    | i64 =>
      refine matched_after fun value => ?_
      cases sign with
      | signed =>
        exact uniform_made (fun f _ => I64.extendS (f.map (word value))) fun _ g => g.extend_signed _
      | unsigned => exact .ok makes_pair

end Operations

section Tables

variable {table image : Table} {value image' : Value} (tables : mirror.tables limit table image)

lemma null_shown (shows : mirror.Shows limit value image') : image' = .null ↔ value = .null := by
  obtain ⟨-, rfl⟩ := shows
  cases value with
  | pair id low high => exact ⟨nofun, nofun⟩
  | _ => exact Iff.rfl

include tables

lemma put_from_shown (count : Nat) (index : Number) (shows : mirror.Shows limit value image') :
    mirror.tables limit (Table.putFrom value count index table) (Table.putFrom image' count index image) := by
  obtain ⟨inside, rfl⟩ := shows
  induction count generalizing table image index with
  | zero => exact tables
  | succ count ih => exact ih (mirror.put tables inside index) (index + .ofInt 1)

lemma write_from_shown (position : Nat) (shows : mirror.Lists limit values images) :
    mirror.tables limit (Table.writeFrom base position values table) (Table.writeFrom base position images image) := by
  obtain ⟨inside, rfl⟩ := shows
  induction values generalizing table image position with
  | nil => exact tables
  | cons first rest ih =>
    obtain ⟨here, later⟩ := forall_mem_cons.mp inside
    exact ih (mirror.put tables here (base + .ofInt position)) (position + 1) later

lemma get_matched : Matched (mirror.Shows limit) (table.get index) (image.get index) := by
  simp only [Table.get, mirror.size tables]
  split
  · exact .error _
  · exact .ok (mirror.element tables _)

lemma set_matched (index : Number) (shows : mirror.Shows limit value image') :
    Matched (mirror.tables limit) (table.set index value) (image.set index image') := by
  obtain ⟨inside, rfl⟩ := shows
  simp only [Table.set, mirror.size tables]
  split
  · exact .error _
  · split
    · exact .error _
    · exact .ok (mirror.put tables inside _)

lemma fill_matched (index count : Number) (shows : mirror.Shows limit value image') :
    Matched (mirror.tables limit) (table.fill index value count) (image.fill index image' count) := by
  simp only [Table.fill, mirror.size tables]
  split
  · exact .error _
  · exact .ok (put_from_shown tables _ _ shows)

lemma init_matched (shows : mirror.Lists limit values images) :
    Matched (mirror.tables limit) (table.init offset values) (image.init offset images) := by
  have empty : images.isEmpty = values.isEmpty := by
    rw [shows.2]
    exact isEmpty_map
  simp only [Table.init, empty]
  split
  · exact .error _
  · exact .ok (write_from_shown tables _ shows)

lemma grow_matched (shows : mirror.Shows limit value image') :
    Matched (fun grown other => other.1 = grown.1 ∧ mirror.tables limit grown.2 other.2)
      (table.grow value delta) (image.grow image' delta) := by
  simp only [Table.grow, mirror.size tables, mirror.maximum tables, null_shown shows]
  split
  · exact .ok ⟨rfl, tables⟩
  · refine matched_after fun old => .ok ⟨rfl, mirror.resize ?_ _⟩
    split
    · exact tables
    · exact put_from_shown tables _ _ shows

lemma callee_matched (key : Bytes) : Matched (fun call other => mirror.calls call ∧ other = call) (table.callee index key)
      (image.callee index key) := by
  simp only [Table.callee, mirror.size tables]
  split
  · exact .error _
  · obtain ⟨inside, shown⟩ := mirror.element tables (Arithmetic.unsigned index)
    rw [shown]
    cases found : table.element (Arithmetic.unsigned index) with
    | ref owner function own call =>
      rw [found] at inside
      simp only [rename]
      split
      · exact .ok ⟨mirror.ref inside, rfl⟩
      · exact .error _
    | _ => exact .error _

end Tables

section Embedder

variable (mirror) (limit)

def Hosts (value image : HostValue) : Prop := value.All (mirror.inside limit) ∧ image = value.rename mirror.names

def HostLists (values images : List HostValue) : Prop := (∀ value ∈ values, value.All (mirror.inside limit)) ∧
    images = values.map (HostValue.rename mirror.names)

variable {mirror} {limit}

lemma hosts_mono (le : limit ≤ larger) {value image : HostValue}
    (hosts : mirror.Hosts limit value image) : mirror.Hosts larger value image := by
  refine ⟨?_, hosts.2⟩
  cases value with
  | held value => exact mirror.mono le hosts.1
  | _ => trivial

lemma host_lists_cons {value image : HostValue} {values images : List HostValue}
    (head : mirror.Hosts limit value image) (tail : mirror.HostLists limit values images) :
    mirror.HostLists limit (value :: values) (image :: images) := by
  refine ⟨forall_mem_cons.mpr ⟨head.1, tail.1⟩, ?_⟩
  rw [head.2, tail.2, map_cons]

lemma to_value_inside {type : Wasm.ValueType} {value : HostValue}
    (inside : value.All (mirror.inside limit)) (found : value.toValue type = .ok made) : made.All (mirror.inside limit) := by
  cases value with
  | held value => cases type <;> cases found <;> exact inside
  | _ =>
    cases type <;> cases found <;>
      first | exact mirror.number | exact mirror.null | exact ⟨mirror.number, mirror.number⟩

lemma to_value_matched (type : Wasm.ValueType) {value image : HostValue} (hosts : mirror.Hosts limit value image) :
    Matched (mirror.Makes limit) (value.toValue type) (image.toValue type) := by
  obtain ⟨inside, rfl⟩ := hosts
  have renamed : (value.rename mirror.names).toValue type = Made.rename mirror.names <$> value.toValue type := by
    cases value with
    | held value => cases type <;> cases value <;> rfl
    | _ => cases type <;> rfl
  rw [renamed]
  cases found : value.toValue type with
  | error mismatch => exact .error mismatch
  | ok result => exact .ok ⟨to_value_inside inside found, rfl⟩

lemma of_value_matched (type : Wasm.ValueType) (shows : mirror.Shows limit value image) (same : pairs' image = pairs value) :
    Matched (mirror.Hosts limit) (HostValue.ofValue pairs type value) (HostValue.ofValue pairs' type image) := by
  obtain ⟨inside, rfl⟩ := shows
  have reference : mirror.Hosts limit (.ofReference value) (.ofReference (value.rename mirror.names)) := by
    cases value with
    | null => exact ⟨trivial, rfl⟩
    | _ => exact ⟨inside, rfl⟩
  have kind : (value.rename mirror.names).kind = value.kind := by
    cases value <;> rfl
  cases type with
  | i64 =>
    simp only [HostValue.ofValue, same, kind]
    split
    · exact .ok ⟨trivial, rfl⟩
    · exact .error _
  | funcref | externref => exact .ok reference
  | i32 | f32 | f64 =>
    cases value with
    | number number => exact .ok ⟨trivial, rfl⟩
    | _ => exact .error _
  | any | other byte => cases value <;> exact .error _

end Embedder

end Mirror

end WasmLua.Exec
