import WasmLua.Exec.Loaded
import WasmLua.Proofs.Description.Written
import WasmLua.Proofs.Number.Integers
import WasmLua.Proofs.Text.Strings

namespace WasmLua.Target.Extern

def unmarked (entity : Extern) : Extern := { entity with mutable := false }

def homeless (entity : Extern) : Extern := { entity with module := [] }

end WasmLua.Target.Extern

namespace WasmLua.Exec

variable {ω α : Type}

namespace Store

def Grows (before after : Store ω) : Prop := ∀ (address : Nat) (object : Object), before.objects[address]? = some object →
    after.objects[address]? = some object

lemma grows_trans (left : Grows first second) (right : Grows second third) : Grows first third :=
  fun address object held => right address object (left address object held)

variable {object : Object} {before after : Store ω} {value : Value}

lemma grows_allocate (store : Store ω) : Grows store (store.allocate object).2 := by
  intro address held found
  obtain ⟨inside, rfl⟩ := Array.getElem?_eq_some_iff.mp found
  simp only [allocate, Array.getElem?_push_lt inside]

lemma object_kept (grown : Grows before after) (held : before.object? value = some object) :
    after.object? value = some object := by
  cases value with
  | object address => exact grown address object held
  | _ => cases held

lemma record_iff (store : Store ω) (value : Value) (record : Record) :
    store.record? value = some record ↔ ∃ slot, store.object? value = some ⟨slot, .record record⟩ := by
  unfold record?
  constructor
  · intro held
    split at held
    · rename_i slot content found
      cases held
      exact ⟨slot, found⟩
    · cases held
  · rintro ⟨slot, found⟩
    rw [found]

lemma record_kept (grown : Grows before after)
    (held : before.record? value = some record) : after.record? value = some record := by
  obtain ⟨slot, found⟩ := (record_iff before value record).mp held
  exact (record_iff after value record).mpr ⟨slot, object_kept grown found⟩

lemma allocated (store : Store ω) (object : Object) :
    (store.allocate object).2.object? (store.allocate object).1 = some object := by
  simp [allocate, object?]

def Entered.named (entered : Entered) (name : Bytes) (value : Value) : Entered :=
  { entered with record := { entered.record with fields := entered.record.fields ++ [(name, value)] } }

lemma add_named (entered : Entered) (name : Bytes) (some : value ≠ .null)
    (other : name ≠ Bytes.ofString "value") : entered.add name value = entered.named name value := by
  simp only [Entered.add, if_neg some, if_neg other, Entered.named]

structure Filled (base count : Nat) (entered : Entered) : Prop where
  next : entered.next = count + 1
  length : entered.record.length = count
  item : ∀ position < count, entered.record.item (position + 1) = .object (base + position)

lemma add_item (filled : Filled base count entered) :
    Filled base (count + 1) (entered.add none (.object (base + count))) := by
  have added : entered.add none (.object (base + count)) = ⟨entered.slot, ⟨entered.record.fields,
        entered.record.items.insert (.ofInt (count + 1 : Nat)) (.object (base + count)), count + 1⟩, count + 2⟩ := by
    simp [Entered.add, filled.next]
  rw [added]
  refine ⟨rfl, rfl, ?_⟩
  intro position inside
  unfold Record.item
  rw [Std.HashMap.getD_insert]
  by_cases last : position = count
  · rw [last, if_pos (beq_self_eq_true _)]
  · have earlier := filled.item position (by omega)
    have apart : ¬ (Number.ofInt (count + 1 : Nat) == Number.ofInt (position + 1 : Nat)) = true := by
      intro same
      have equal := Number.int_injective (beq_iff_eq.mp same)
      omega
    rw [if_neg apart]
    exact earlier

end Store

open Store Loaded List
open Store (Grows Entered Filled)

mutual

lemma Literal.enter_grows (literal : Literal) (store : Store ω) : Grows store (literal.enter store).2 := by
  cases literal with
  | table entries =>
    rw [Literal.enter]
    exact grows_trans (Entries.enter_grows entries .empty store) (grows_allocate _)
  | _ => exact fun _ _ held => held

lemma Entries.enter_grows (entries : Entries) (entered : Entered) (store : Store ω) :
    Grows store (entries.enter entered store).2 := by
  cases entries with
  | none => exact fun _ _ held => held
  | entry key value rest =>
    rw [Entries.enter]
    exact grows_trans (Literal.enter_grows value store) (Entries.enter_grows rest _ _)

end

namespace Reader

open Target (Extern)

def literalOf : Value → Literal
  | .text value => .text value
  | .bool value => .bool value
  | _ => .null

def typeFields (entity : Extern) : List (Bytes × Value) :=
  if entity.type.isEmpty then [] else [(Bytes.ofString "type", .text entity.type)]

def importFields (entity : Extern) : List (Bytes × Value) :=
  [(Bytes.ofString "module", .text entity.module), (Bytes.ofString "name", .text entity.name),
    (Bytes.ofString "kind", .text (Bytes.ofString entity.kind.text))] ++ typeFields entity

def exportFields (entity : Extern) : List (Bytes × Value) :=
  [(Bytes.ofString "name", .text entity.name), (Bytes.ofString "kind", .text (Bytes.ofString entity.kind.text))] ++ typeFields entity
      ++ if entity.mutable then [(Bytes.ofString "mutable", .bool true)] else []

def recordObject (fields : List (Bytes × Value)) : Object := ⟨.null, .record ⟨fields, ∅, 0⟩⟩

def Written (field : Bytes × Value) : Prop :=
  field.1 ≠ Bytes.ofString "value" ∧ ((∃ text, field.2 = .text text) ∨ ∃ truth, field.2 = .bool truth)

variable {store : Store ω} {value : Value} {entity : Extern}

lemma fields_entered (fields : List (Bytes × Value)) (written : ∀ field ∈ fields, Written field) :
    (Literal.table (entriesOf (fields.map fun field => (field.1, literalOf field.2)))).enter store
      = store.allocate (recordObject fields) := by
  have entered (fields before : List (Bytes × Value)) (written : ∀ field ∈ fields, Written field) :
      (entriesOf (fields.map fun field => (some field.1, literalOf field.2))).enter
        ⟨.null, ⟨before, ∅, 0⟩, 1⟩ store = (⟨.null, ⟨before ++ fields, ∅, 0⟩, 1⟩, store) := by
    induction fields generalizing before with
    | nil => simp [entriesOf, Entries.enter]
    | cons field rest ih =>
      obtain ⟨name, value⟩ := field
      obtain ⟨other, scalar⟩ := written _ mem_cons_self
      have one : (literalOf value).enter store = (value, store) ∧ value ≠ .null := by
        rcases scalar with ⟨text, rfl⟩ | ⟨truth, rfl⟩ <;> exact ⟨by rw [literalOf, Literal.enter], by simp⟩
      have next := ih (before ++ [(name, value)]) fun field member =>
        written field (mem_cons_of_mem _ member)
      rw [map_cons, entriesOf, Entries.enter, one.1]
      simp only [add_named _ _ one.2 other, Entered.named, next, append_assoc, singleton_append]
  have whole := entered fields [] written
  change ((entriesOf _).enter Entered.empty store) = _ at whole
  rw [Literal.enter, whole]
  rfl

lemma import_entered (entity : Extern) (store : Store ω) :
    (importLiteral entity).enter store = store.allocate (recordObject (importFields entity)) := by
  rw [← fields_entered (importFields entity)]
  · unfold importLiteral typeEntries importFields typeFields
    split <;> rfl
  · unfold importFields typeFields Written
    split <;> simp

lemma export_entered (entity : Extern) (store : Store ω) :
    (exportLiteral entity).enter store = store.allocate (recordObject (exportFields entity)) := by
  rw [← fields_entered (exportFields entity)]
  · unfold exportLiteral typeEntries exportFields typeFields
    split <;> split <;> rfl
  · unfold exportFields typeFields Written
    split <;> split <;> simp

def Lists (store : Store ω) (value : Value) (objects : List Object) : Prop :=
  ∃ record, store.record? value = some record ∧ record.length = objects.length ∧
    ∀ position (inside : position < objects.length), store.object? (record.item (position + 1)) = some objects[position]

lemma lists_kept {before after : Store ω} (grown : Grows before after) {objects : List Object}
    (listed : Lists before value objects) : Lists after value objects := by
  obtain ⟨record, held, length, each⟩ := listed
  exact ⟨record, record_kept grown held, length, fun position inside =>
    object_kept grown (each position inside)⟩

lemma items_entered (literal : α → Literal) (object : α → Object) (store : Store ω)
    (each : ∀ item (store : Store ω), (literal item).enter store = store.allocate (object item))
    (items : List α) (base count : Nat) (entered : Entered) (filled : Filled base count entered)
    (size : store.objects.size = base + count) :
    ∃ full after, (entriesOf (items.map fun item => (none, literal item))).enter entered store
        = (full, after) ∧ Filled base (count + items.length) full ∧ ∀ position (inside : position < items.length),
        after.objects[base + count + position]? = some (object items[position]) := by
  induction items generalizing count entered store with
  | nil => exact ⟨entered, store, rfl, filled, fun _ inside => absurd inside (by simp)⟩
  | cons item rest ih =>
    have next : (store.allocate (object item)).2.objects.size = base + (count + 1) := by
      simp [allocate, size, Nat.add_assoc]
    have added := add_item filled
    obtain ⟨full, after, entered', filled', held⟩ := ih _ (count + 1) _ added next
    refine ⟨full, after, ?_, ?_, ?_⟩
    · rw [map_cons, entriesOf, Entries.enter, each]
      simp only [allocate, size] at entered' ⊢
      exact entered'
    · rw [length_cons, ← Nat.add_assoc, Nat.add_right_comm]
      exact filled'
    · intro position inside
      cases position with
      | zero =>
        have grown := Entries.enter_grows (entriesOf (rest.map fun item => (none, literal item)))
          (entered.add none (.object (base + count))) (store.allocate (object item)).2
        rw [entered'] at grown
        apply grown
        simp [allocate, ← size]
      | succ position =>
        have found := held position (by simpa using inside)
        rw [getElem_cons_succ, ← found]
        congr 1
        omega

lemma list_entered (store : Store ω)
    (each : ∀ item (store : Store ω), (literal item).enter store = store.allocate (object item))
    (items : List α) : ∃ address after, (listLiteral literal items).enter store = (.object address, after) ∧
      Lists after (.object address) (items.map object) := by
  obtain ⟨full, after, entered, filled, held⟩ := items_entered literal object store each items
    store.objects.size 0 .empty ⟨rfl, rfl, fun _ inside => absurd inside (by simp)⟩ rfl
  refine ⟨after.objects.size, (after.allocate ⟨full.slot, .record full.record⟩).2, ?_, full.record, ?_, ?_, ?_⟩
  · rw [listLiteral, Literal.enter, entered]
    rfl
  · exact (record_iff _ _ _).mpr ⟨full.slot, allocated after _⟩
  · rw [filled.length, length_map, Nat.zero_add]
  · intro position inside
    rw [length_map] at inside
    rw [filled.item position (by omega), getElem_map]
    exact grows_allocate after _ _ (held position inside)

def Named (kind : Wasm.ExternKind) : Prop := kind = .func ∨ kind = .table ∨ kind = .memory ∨ kind = .global

lemma kind_read (named : Named kind) :
    Wasm.ExternKind.ofText? (Bytes.ofString kind.text) = some kind := by
  rcases named with rfl | rfl | rfl | rfl
  all_goals
    simp only [Wasm.ExternKind.ofText?, find?, Bytes.ofString_beq]
    rfl

lemma import_read (named : Named entity.kind)
    (held : store.object? value = some (recordObject (importFields entity))) (position : Nat) :
    readExtern store position value = .ok entity.unmarked := by
  have found := (record_iff store value _).mpr ⟨_, held⟩
  obtain ⟨module, name, kind, type, mutable⟩ := entity
  simp only [readExtern, found, importFields, typeFields, Record.field]
  by_cases empty : type.isEmpty
  · cases isEmpty_iff.mp empty
    simp [lookup, kind_read named, Value.asText, Value.asBool, Extern.unmarked]
  · simp [empty, lookup, kind_read named, Value.asText, Value.asBool, Extern.unmarked]

lemma export_read (named : Named entity.kind)
    (held : store.object? value = some (recordObject (exportFields entity))) (position : Nat) :
    readExtern store position value = .ok entity.homeless := by
  have found := (record_iff store value _).mpr ⟨_, held⟩
  obtain ⟨module, name, kind, type, mutable⟩ := entity
  simp only [readExtern, found, exportFields, typeFields, Record.field]
  by_cases empty : type.isEmpty
  · cases isEmpty_iff.mp empty
    cases mutable <;> simp [lookup, kind_read named, Value.asText, Value.asBool, Extern.homeless]
  · cases mutable <;>
      simp [empty, lookup, kind_read named, Value.asText, Value.asBool, Extern.homeless]

lemma range_mapped {ε β : Type} {items : List β} (find : Nat → Except ε β)
    (each : ∀ position (inside : position < items.length), find position = .ok items[position]) :
    (range items.length).mapM find = .ok items := by
  induction items generalizing find with
  | nil => rfl
  | cons item rest ih =>
    have first : find 0 = .ok item := each 0 (by simp)
    have others := ih (find ∘ Nat.succ) fun position inside => each (position + 1) (by simpa using inside)
    rw [length_cons, range_succ_eq_map, mapM_cons, first, mapM_map, others]
    rfl

lemma externs_read {fields : Extern → List (Bytes × Value)} {read : Extern → Extern} {entities : List Extern}
    (each : ∀ entity ∈ entities, ∀ value, store.object? value = some (recordObject (fields entity)) →
      ∀ position, readExtern store position value = .ok (read entity))
    (listed : Lists store value (entities.map fun entity => recordObject (fields entity))) :
    readExterns store value = .ok (entities.map read) := by
  obtain ⟨record, held, length, items⟩ := listed
  rw [readExterns, held]
  have count : record.length = (entities.map read).length := by rw [length, length_map, length_map]
  simp only [count]
  apply range_mapped
  intro position inside
  rw [length_map] at inside
  have item := items position (by rwa [length_map])
  rw [getElem_map] at item
  rw [each _ (getElem_mem inside) _ item, getElem_map]

lemma description_entered (meaning : List Char → Literal) (program : Target.Program) (store : Store ω) :
    ∃ value after record, (descriptionLiteral meaning program).enter store = (value, after) ∧
      after.record? value = some record ∧ record.field "name" = .text program.name ∧ Lists after (record.field "imports")
        (program.importList.map fun entity => recordObject (importFields entity)) ∧ Lists after (record.field "exports")
        (program.exportList.map fun entity => recordObject (exportFields entity)) := by
  obtain ⟨first, between, importsEntered, imports⟩ := list_entered store import_entered program.importList
  obtain ⟨second, behind, exportsEntered, exports⟩ := list_entered between export_entered program.exportList
  let last := wordValue meaning (Target.helper program.namePrefix "instantiate").toList
  let fields : List (Bytes × Value) := [(Bytes.ofString "name", .text program.name),
    (Bytes.ofString "imports", .object first), (Bytes.ofString "exports", .object second)]
  have entered : (entriesOf [entry "name" (.text program.name), entry "imports" (listLiteral importLiteral program.importList),
        entry "exports" (listLiteral exportLiteral program.exportList), entry "instantiate" last]).enter .empty store
      = (Entered.add ⟨.null, ⟨fields, ∅, 0⟩, 1⟩ (Bytes.ofString "instantiate") (last.enter behind).1, (last.enter behind).2) := by
    simp only [entry, entriesOf, Entries.enter, Literal.enter, importsEntered, exportsEntered]
    rw [add_named .empty (Bytes.ofString "name") (by simp) (by simp), add_named _ (Bytes.ofString "imports") (by simp) (by simp),
      add_named _ (Bytes.ofString "exports") (by simp) (by simp)]
    rfl
  have added : ∃ more, Entered.add ⟨.null, ⟨fields, ∅, 0⟩, 1⟩ (Bytes.ofString "instantiate")
      (last.enter behind).1 = ⟨.null, ⟨fields ++ more, ∅, 0⟩, 1⟩ := by
    by_cases null : (last.enter behind).1 = .null
    · exact ⟨[], by simp [Entered.add, null]⟩
    · exact ⟨_, add_named _ _ null (by simp)⟩
  obtain ⟨more, added⟩ := added
  rw [added] at entered
  let record : Record := ⟨fields ++ more, ∅, 0⟩
  have name : record.field "name" = .text program.name := by simp [record, fields, Record.field]
  have importsField : record.field "imports" = .object first := by
    simp [record, fields, Record.field, lookup]
  have exportsField : record.field "exports" = .object second := by
    simp [record, fields, Record.field, lookup]
  let after := ((last.enter behind).2.allocate ⟨.null, .record record⟩).2
  have grown : Grows behind after := grows_trans (last.enter_grows behind) (grows_allocate _)
  have early : Grows between behind := by
    have kept := Literal.enter_grows (listLiteral exportLiteral program.exportList) between
    rwa [exportsEntered] at kept
  refine ⟨_, after, record, ?_, (record_iff _ _ _).mpr ⟨.null, allocated _ _⟩, name, ?_, ?_⟩
  · rw [descriptionLiteral, Literal.enter, entered]
  · rw [importsField]
    exact lists_kept (grows_trans early grown) imports
  · rw [exportsField]
    exact lists_kept grown exports

lemma description_loaded (meaning : List Char → Literal) {program : Target.Program} (depth : Nat)
    (store : Store ω) (imports : ∀ entity ∈ program.importList, Named entity.kind)
    (exports : ∀ entity ∈ program.exportList, Named entity.kind) :
    ∃ loaded after, ofLiteral (descriptionLiteral meaning program) depth store = .ok loaded after ∧
      loaded.name = program.name ∧ loaded.imports = program.importList.map Extern.unmarked ∧
      loaded.exports = program.exportList.map Extern.homeless := by
  obtain ⟨value, after, record, entered, held, name, importsListed, exportsListed⟩ := description_entered meaning program store
  have importsRead := externs_read (fun entity member value held => import_read (imports entity member) held) importsListed
  have exportsRead := externs_read (fun entity member value held => export_read (exports entity member) held) exportsListed
  let loaded : Loaded := ⟨program.name, program.importList.map Extern.unmarked,
    program.exportList.map Extern.homeless, depth, .scripted (record.field "instantiate")⟩
  have read : ofValue after value depth = .ok loaded := by
    simp only [ofValue, held, importsRead, exportsRead, name]
    rfl
  refine ⟨loaded, after, ?_, rfl, rfl, rfl⟩
  change Embedding.ofExcept (ofValue ((descriptionLiteral meaning program).enter store).2
    ((descriptionLiteral meaning program).enter store).1 depth) ((descriptionLiteral meaning program).enter store).2 = _
  rw [entered]
  simp only [read]
  rfl

end Reader

end WasmLua.Exec
