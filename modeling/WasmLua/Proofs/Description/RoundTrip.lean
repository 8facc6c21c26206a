import WasmLua.Proofs.Description.Entered
import WasmLua.Proofs.Plan.Assembly

namespace WasmLua.Wasm.Module

open Target (Extern)

def functionExtern (module : Module) (function : Function) (origin name : Bytes) : Extern :=
  ⟨origin, name, .func, (module.type? function.type).elim [] Signature.key, false⟩

def tableExtern (table : Table) (origin name : Bytes) : Extern := ⟨origin, name, .table, [table.element.key], false⟩

def memoryExtern (origin name : Bytes) : Extern := ⟨origin, name, .memory, [], false⟩

def globalExtern (global : Global) (origin name : Bytes) : Extern :=
  ⟨origin, name, .global, [global.type.type.key], global.type.mutable⟩

def imported {α : Type} (origin : α → Option Import) (describe : α → Bytes → Bytes → Extern) (entities : List α) : List Extern :=
  entities.filterMap fun entity => (origin entity).map fun found =>
    describe entity found.module found.field

def importExterns (module : Module) : List Extern := imported (·.origin) module.functionExtern module.functions
    ++ imported (·.origin) tableExtern module.tables
    ++ imported (·.origin) (fun _ => memoryExtern) module.memories
    ++ imported (·.origin) globalExtern module.globals

def exportExtern (module : Module) (item : Export) : Extern :=
  let place := item.index.toNat
  match item.kind with
  | .func => (module.functions[place]?).elim ⟨[], item.name, .func, [], false⟩
      fun function => module.functionExtern function [] item.name
  | .table => (module.tables[place]?).elim ⟨[], item.name, .table, [ValueType.funcref.key], false⟩
      fun table => tableExtern table [] item.name
  | .global => (module.globals[place]?).elim ⟨[], item.name, .global, [], false⟩ fun global => globalExtern global [] item.name
  | kind => ⟨[], item.name, kind, [], false⟩

def exportExterns (module : Module) : List Extern := module.exports.map module.exportExtern

def Indexed (module : Module) : Prop :=
  module.functions.length ≤ 2 ^ 32 ∧ module.tables.length ≤ 2 ^ 32 ∧ module.globals.length ≤ 2 ^ 32

end WasmLua.Wasm.Module

namespace WasmLua.Compile

open Exec.Reader (Worded)
open Target (Extern)

namespace Plan

variable (plan : Plan)

lemma function_type (index : UInt32) (type : Bytes × Bool) (found : plan.externType .func index = .ok type) :
    ∃ function, plan.module.functions[index.toNat]? = some function ∧
      type = ((plan.module.type? function.type).elim [] Wasm.Signature.key, false) := by
  obtain ⟨key, keyed, same⟩ := bind_ok found
  cases same
  unfold signatureKey Wasm.Module.signature? at keyed
  cases held : plan.module.functions[index.toNat]? with
  | none => simp [held] at keyed
  | some function =>
    cases typed : plan.module.type? function.type with
    | none => simp [held, typed] at keyed
    | some signature =>
      simp only [held, typed, Option.bind_eq_bind, Option.bind_some, Except.ok.injEq] at keyed
      exact ⟨function, rfl, by rw [typed, ← keyed]; rfl⟩

variable {α : Type}

lemma index_held {all : List α} (small : all.length ≤ 2 ^ 32) {index : Nat} {entity : α}
    (held : all[index]? = some entity) : all[(UInt32.ofNat index).toNat]? = some entity := by
  obtain ⟨inside, -⟩ := List.getElem?_eq_some_iff.mp held
  have below : index < UInt32.size := Nat.lt_of_lt_of_le inside small
  rw [UInt32.toNat_ofNat_of_lt' below, held]

lemma imports_described (kind : Wasm.ExternKind) (origin : α → Option Wasm.Import)
    (describe : α → Bytes → Bytes → Extern) (all : List α) (each : ∀ (index : Nat) entity type, all[index]? = some entity →
      plan.externType kind (UInt32.ofNat index) = .ok type →
        ∀ module name, (describe entity module name).unmarked = ⟨module, name, kind, type.1, false⟩)
    (rest : List α) (index : Nat) (place : all.drop index = rest) (list : List Extern)
    (found : plan.importsOf kind index (rest.map origin) = .ok list) :
    list = (Wasm.Module.imported origin describe rest).map Extern.unmarked := by
  induction rest generalizing index list with
  | nil =>
    cases found
    rfl
  | cons entity rest ih =>
    have behind : all.drop (index + 1) = rest := by rw [← List.tail_drop, place, List.tail_cons]
    have held : all[index]? = some entity := by
      rw [← Nat.add_zero index, ← List.getElem?_drop, place, List.getElem?_cons_zero]
    rw [List.map_cons] at found
    cases known : origin entity with
    | none =>
      rw [known] at found
      simpa [Wasm.Module.imported, known] using ih (index + 1) behind list found
    | some found' =>
      rw [known] at found
      obtain ⟨type, typed, found⟩ := bind_ok found
      obtain ⟨more, others, same⟩ := bind_ok found
      cases same
      have first := each index entity type held typed
      rw [ih (index + 1) behind more others]
      simp [Wasm.Module.imported, known, first]

lemma import_list_described (indexed : plan.module.Indexed) (list : List Extern)
    (found : plan.importList = .ok list) : list = plan.module.importExterns.map Extern.unmarked := by
  obtain ⟨functions, tables, globals⟩ := indexed
  obtain ⟨first, functionsFound, found⟩ := bind_ok found
  obtain ⟨second, tablesFound, found⟩ := bind_ok found
  obtain ⟨third, memoriesFound, found⟩ := bind_ok found
  obtain ⟨fourth, globalsFound, same⟩ := bind_ok found
  cases same
  have functionsSame := plan.imports_described .func _ plan.module.functionExtern _ (by
    intro index entity type held typed module name
    obtain ⟨function, known, rfl⟩ := plan.function_type _ type typed
    rw [index_held functions held] at known
    cases known
    rfl) _ 0 rfl _ functionsFound
  have tablesSame := plan.imports_described .table _ Wasm.Module.tableExtern _ (by
    intro index entity type held typed module name
    cases typed
    simp only [elementType, index_held tables held]
    rfl) _ 0 rfl _ tablesFound
  have memoriesSame := plan.imports_described .memory _ (fun _ => Wasm.Module.memoryExtern) _ (by
    intro index entity type held typed module name
    cases typed
    rfl) _ 0 rfl _ memoriesFound
  have globalsSame := plan.imports_described .global _ Wasm.Module.globalExtern _ (by
    intro index entity type held typed module name
    simp only [externType, index_held globals held] at typed
    cases typed
    rfl) _ 0 rfl _ globalsFound
  rw [functionsSame, tablesSame, memoriesSame, globalsSame, Wasm.Module.importExterns]
  simp only [List.map_append, List.drop_zero]

lemma export_described (item : Wasm.Export) (type : Bytes × Bool) (found : plan.externType item.kind item.index = .ok type) :
    ⟨[], item.name, item.kind, type.1, type.2⟩ = plan.module.exportExtern item := by
  obtain ⟨name, kind, index⟩ := item
  cases kind with
  | func =>
    obtain ⟨function, held, rfl⟩ := plan.function_type index type found
    simp only [Wasm.Module.exportExtern, held]
    rfl
  | table =>
    cases found
    simp only [Wasm.Module.exportExtern, elementType]
    cases plan.module.tables[index.toNat]? <;> rfl
  | global =>
    unfold externType at found
    simp only [Wasm.Module.exportExtern]
    cases held : plan.module.globals[index.toNat]? with
    | none | some global =>
      simp only [held] at found
      cases found
      rfl
  | memory | other _ =>
    cases found
    rfl

lemma mapped_list {ε β : Type} {find : α → Except ε β} {describe : α → β} {items : List α}
    (each : ∀ item found, find item = .ok found → found = describe item) (list : List β)
    (found : items.mapM find = .ok list) : list = items.map describe := by
  induction items generalizing list with
  | nil =>
    cases found
    rfl
  | cons item rest ih =>
    rw [List.mapM_cons] at found
    obtain ⟨first, head, found⟩ := bind_ok found
    obtain ⟨more, tail, same⟩ := bind_ok found
    cases same
    rw [List.map_cons, each item first head, ih more tail]

lemma export_list_described (list : List Extern) (found : plan.exportList = .ok list) : list = plan.module.exportExterns := by
  apply mapped_list _ list found
  intro item entity made
  obtain ⟨type, typed, same⟩ := bind_ok made
  cases same
  exact plan.export_described item type typed

end Plan

variable {options : Option Options} {byte : UInt8}

lemma letter_char (letter : isLetter byte = true) : byte < 0x80 ∧ Exec.Reader.isWordChar (Char.ofNat byte.toNat) = true ∧
      (Char.ofNat byte.toNat).isDigit = false := by
  have table : ∀ code : Fin 256, isLetter (UInt8.ofNat code.val) = true → code.val < 0x80 ∧
      Exec.Reader.isWordChar (Char.ofNat code.val) = true ∧ (Char.ofNat code.val).isDigit = false := by decide +kernel
  exact table ⟨byte.toNat, byte.toNat_lt⟩ (by rwa [UInt8.ofNat_toNat])

lemma digit_char (digit : isDigit byte = true) : byte < 0x80 ∧ Exec.Reader.isWordChar (Char.ofNat byte.toNat) = true := by
  have table : ∀ code : Fin 256, isDigit (UInt8.ofNat code.val) = true → code.val < 0x80 ∧
      Exec.Reader.isWordChar (Char.ofNat code.val) = true := by decide +kernel
  exact table ⟨byte.toNat, byte.toNat_lt⟩ (by rwa [UInt8.ofNat_toNat])

lemma text_ascii {bytes : Bytes} (ascii : ∀ byte ∈ bytes, byte < 0x80) :
    bytes.toText = String.ofList (bytes.map fun byte => Char.ofNat byte.toNat) := by
  have pieces : Bytes.piecesFrom 0 bytes = bytes.map fun byte => .char (Char.ofNat byte.toNat) := by
    induction bytes with
    | nil => rfl
    | cons byte rest ih =>
      have one : Bytes.charAt? byte rest = some (Char.ofNat byte.toNat, 0) := by
        unfold Bytes.charAt?
        exact if_pos (ascii byte List.mem_cons_self)
      rw [Bytes.piecesFrom, one, List.map_cons, ← ih fun byte member => ascii byte (List.mem_cons_of_mem _ member)]
  rw [Bytes.toText, Bytes.pieces, pieces, List.map_map]
  rfl

lemma identifier_worded {name : Bytes} (valid : isIdentifier name = true) : Worded name.toText := by
  cases name with
  | nil => cases valid
  | cons first rest =>
    simp only [isIdentifier, Bool.and_eq_true, List.all_eq_true, Bool.or_eq_true] at valid
    obtain ⟨⟨letter, others⟩, -⟩ := valid
    have head := letter_char letter
    have tail (byte : UInt8) (member : byte ∈ rest) : byte < 0x80 ∧ Exec.Reader.isWordChar (Char.ofNat byte.toNat) = true := by
      rcases others byte member with found | found
      · exact ⟨(letter_char found).1, (letter_char found).2.1⟩
      · exact digit_char found
    have ascii : ∀ byte ∈ first :: rest, byte < 0x80 := by
      intro byte member
      rcases List.mem_cons.mp member with rfl | member
      · exact head.1
      · exact (tail byte member).1
    have chars : (Bytes.toText (first :: rest)).toList = (first :: rest).map fun byte => Char.ofNat byte.toNat := by
      rw [text_ascii ascii, String.toList_ofList]
    refine ⟨Char.ofNat first.toNat, rest.map fun (byte : UInt8) => Char.ofNat byte.toNat, chars, head.2.2, ?_⟩
    intro char member
    rw [chars, List.map_cons] at member
    rcases List.mem_cons.mp member with rfl | member
    · exact head.2.1
    · obtain ⟨byte, found, rfl⟩ := List.mem_map.mp member
      exact (tail byte found).2

lemma settings_worded {settings : Settings} (resolved : settingsOf options = .ok settings) : Worded settings.namePrefix := by
  have standard : Worded Settings.default.namePrefix := ⟨'w', ['2', 'l'], rfl, rfl, List.all_eq_true.mp rfl⟩
  cases options with
  | none =>
    cases resolved
    exact standard
  | some options =>
    by_cases empty : options.namePrefix.isEmpty
    · simp only [settingsOf, Options.resolve?, empty, Bool.true_or, if_true] at resolved
      cases resolved
      exact standard
    · by_cases valid : isIdentifier options.namePrefix
      · simp only [settingsOf, Options.resolve?, empty, valid, Bool.or_true, if_true] at resolved
        cases resolved
        exact identifier_worded valid
      · simp [settingsOf, Options.resolve?, empty, valid] at resolved

lemma helper_worded {text name : String} (worded : Worded text)
    (letters : ∀ char ∈ name.toList, Exec.Reader.isWordChar char = true) : Worded (Target.helper text name) := by
  obtain ⟨first, rest, chars, start, plain⟩ := worded
  have joined : (Target.helper text name).toList = text.toList ++ ('_' :: name.toList) := by
    simp [Target.helper, String.toList_append]
  refine ⟨first, rest ++ ('_' :: name.toList), by rw [joined, chars, List.cons_append], start, ?_⟩
  intro char member
  rw [joined] at member
  rcases List.mem_append.mp member with found | found
  · exact plain char found
  · rcases List.mem_cons.mp found with rfl | found
    · rfl
    · exact letters char found

end WasmLua.Compile

namespace WasmLua.Wasm.Module

open Exec.Reader (Named)
open Target (Extern)

lemma imported_mem {α : Type} {origin : α → Option Import} {describe : α → Bytes → Bytes → Extern}
    {entities : List α} {found : Extern} : found ∈ imported origin describe entities ↔
      ∃ entity ∈ entities, ∃ place, origin entity = some place ∧ describe entity place.module place.field = found := by
  simp [imported, List.mem_filterMap, Option.map_eq_some_iff]

lemma imports_named (module : Module) (entity : Extern) (member : entity ∈ module.importExterns) : Named entity.kind := by
  simp only [importExterns, List.mem_append, imported_mem] at member
  rcases member with ((member | member) | member) | member
  all_goals
    obtain ⟨_, _, _, _, rfl⟩ := member
    simp [Named, functionExtern, tableExtern, memoryExtern, globalExtern]

lemma exportExtern_shape (module : Module) (item : Export) : (module.exportExtern item).kind = item.kind ∧
      (module.exportExtern item).homeless = module.exportExtern item := by
  obtain ⟨name, kind, index⟩ := item
  cases kind with
  | func =>
    simp only [exportExtern]
    cases module.functions[index.toNat]? <;> exact ⟨rfl, rfl⟩
  | table =>
    simp only [exportExtern]
    cases module.tables[index.toNat]? <;> exact ⟨rfl, rfl⟩
  | global =>
    simp only [exportExtern]
    cases module.globals[index.toNat]? <;> exact ⟨rfl, rfl⟩
  | memory | other _ => exact ⟨rfl, rfl⟩

lemma unmarked_imports (module : Module) : module.importExterns.map Extern.unmarked = module.importExterns ↔
      ∀ global ∈ module.globals, global.origin.isSome → global.type.mutable = false := by
  have pointwise : module.importExterns.map Extern.unmarked = module.importExterns ↔
      ∀ entity ∈ module.importExterns, entity.mutable = false := by
    have fixed := List.map_inj_left (f := Extern.unmarked) (g := id) (l := module.importExterns)
    rw [List.map_id] at fixed
    rw [fixed]
    exact forall₂_congr fun entity _ => ⟨fun same => (congrArg Extern.mutable same).symm,
      fun unset => by rw [Extern.unmarked, ← unset]; rfl⟩
  rw [pointwise]
  constructor
  · intro fixed global member origin
    obtain ⟨place, known⟩ := Option.isSome_iff_exists.mp origin
    apply fixed (globalExtern global place.module place.field)
    simp only [importExterns, List.mem_append, imported_mem]
    exact .inr ⟨global, member, place, known, rfl⟩
  · intro fixed entity member
    simp only [importExterns, List.mem_append, imported_mem] at member
    rcases member with ((member | member) | member) | member
    · obtain ⟨_, _, _, _, rfl⟩ := member
      rfl
    · obtain ⟨_, _, _, _, rfl⟩ := member
      rfl
    · obtain ⟨_, _, _, _, rfl⟩ := member
      rfl
    · obtain ⟨global, held, place, known, rfl⟩ := member
      exact fixed global held (by rw [known]; rfl)

end WasmLua.Wasm.Module

namespace WasmLua.Exec

open Target (Extern)

/-- A loaded unit that describes a module, but for the mutability of imports. -/
structure Loaded.Describes (loaded : Loaded) (module : Wasm.Module) : Prop where
  name : loaded.name = module.name
  imports : loaded.imports = module.importExterns.map Extern.unmarked
  exports : loaded.exports = module.exportExterns

lemma read_named {entity : Extern} (named : Reader.Named entity.kind) (mutable : Bool) :
    Loaded.readBack mutable entity = .ok { entity with mutable } := by
  simp only [Loaded.readBack, Reader.kind_read named]

lemma mapped_ok {ε α β : Type} (find : α → Except ε β) (describe : α → β) (items : List α)
    (each : ∀ item ∈ items, find item = .ok (describe item)) : items.mapM find = .ok (items.map describe) := by
  induction items with
  | nil => rfl
  | cons item rest ih =>
    rw [List.mapM_cons, each item List.mem_cons_self, ih fun item member => each item (List.mem_cons_of_mem _ member)]
    rfl

lemma program_loaded (program : Target.Program) (depth : Nat) (imports : ∀ entity ∈ program.importList, Reader.Named entity.kind)
    (exports : ∀ entity ∈ program.exportList, Reader.Named entity.kind) :
    Loaded.ofProgram program depth = .ok ⟨program.name, program.importList.map Extern.unmarked,
      program.exportList, depth, .program program (.ofProgram program)⟩ := by
  have importsRead := mapped_ok (Loaded.readBack false) Extern.unmarked program.importList
    fun entity member => read_named (imports entity member) false
  have exportsRead := mapped_ok (fun entity => Loaded.readBack entity.mutable entity) id
    program.exportList fun entity member => read_named (exports entity member) entity.mutable
  rw [List.map_id] at exportsRead
  rw [Loaded.ofProgram, importsRead, exportsRead]
  rfl

/-- The description at the end of a unit's text is read as the name, the imports and the exports of
the module, and so is the unit when it is loaded. What is lost is whether imported globals are
mutable. -/
theorem description_round_trip (module : Wasm.Module) (options : Option Compile.Options)
    (program : Target.Program) (accepted : Compile.compile module options = .ok program)
    (indexed : module.Indexed) (kinds : ∀ item ∈ module.exports, Reader.Named item.kind) :
    (∃ front, program.text = front ++ Target.helper program.namePrefix "module" ++ " = "
      ++ Reader.tableText program ++ "\n\nreturn " ++ Target.helper program.namePrefix "module" ++ "\n") ∧
    (∀ meaning, ∃ literal, Reader.read? meaning (Reader.tableText program) = some literal ∧
      ∀ (ω : Type) (store : Store ω) (depth : Nat), ∃ loaded after,
        Loaded.ofLiteral literal depth store = .ok loaded after ∧ loaded.Describes module) ∧
    (∀ name depth, match program.refusal? with
      | some refusal =>
        Loaded.load name program depth = .error (.raised (some (refusal.message name)))
      | none => ∃ loaded, Loaded.load name program depth = .ok loaded ∧ loaded.Describes module) ∧
    (∀ loaded : Loaded, loaded.Describes module → (loaded.imports = module.importExterns ↔
      ∀ global ∈ module.globals, global.origin.isSome → global.type.mutable = false)) := by
  obtain ⟨plan, functions, compiles⟩ := Compile.compile_steps accepted
  obtain rfl := compiles.planned
  have assembled := compiles.assembled
  have imports := plan.import_list_described indexed _ assembled.importList
  have exports := plan.export_list_described _ assembled.exportList
  have importsNamed : ∀ entity ∈ program.importList, Reader.Named entity.kind := by
    rw [imports]
    intro entity member
    obtain ⟨described, found, rfl⟩ := List.mem_map.mp member
    exact plan.module.imports_named described found
  have exportsNamed : ∀ entity ∈ program.exportList, Reader.Named entity.kind := by
    rw [exports]
    intro entity member
    obtain ⟨item, found, rfl⟩ := List.mem_map.mp member
    rw [(plan.module.exportExtern_shape item).1]
    exact kinds item found
  have twice : program.importList.map Extern.unmarked = plan.module.importExterns.map Extern.unmarked := by
    rw [imports, List.map_map]
    rfl
  have worded : Reader.Worded (Target.helper program.namePrefix "instantiate") := by
    apply Compile.helper_worded _ (List.all_eq_true.mp rfl)
    rw [assembled.names, compiles.names]
    exact Compile.settings_worded compiles.settings
  refine ⟨Reader.text_description program, ?_, ?_, ?_⟩
  · intro meaning
    refine ⟨_, Reader.description_read meaning worded, ?_⟩
    intro ω store depth
    obtain ⟨loaded, after, ran, readName, readImports, readExports⟩ :=
      Reader.description_loaded meaning depth store importsNamed exportsNamed
    refine ⟨loaded, after, ran, readName.trans assembled.name, readImports.trans twice, ?_⟩
    rw [readExports, exports, Wasm.Module.exportExterns, List.map_map]
    exact List.map_congr_left fun item _ => (plan.module.exportExtern_shape item).2
  · intro name' depth
    cases refused : program.refusal? with
    | some refusal => simp only [Loaded.load, refused]
    | none =>
      refine ⟨⟨program.name, program.importList.map Extern.unmarked, program.exportList, depth,
        .program program (.ofProgram program)⟩, ?_, assembled.name, twice, exports⟩
      simp only [Loaded.load, refused]
      exact program_loaded program depth importsNamed exportsNamed
  · intro loaded described
    rw [described.imports]
    exact plan.module.unmarked_imports

def exchange : Wasm.Module :=
  { Wasm.Module.empty with
    name := [0x22, 0x0a, 0xff]
    types := [⟨[.i32], [.i64]⟩]
    functions := [⟨[], 0, some ⟨[0x5c], [0x00]⟩, [], []⟩]
    tables := [⟨some ⟨[0x5c], [0x22]⟩, .externref, ⟨1, none⟩⟩]
    memories := [⟨some ⟨[0x5c], []⟩, ⟨1, none⟩⟩]
    globals := [⟨some ⟨[0x5c], [0x67]⟩, ⟨.f64, true⟩, []⟩]
    exports := [⟨[0x66], .func, 0⟩, ⟨[0x67], .global, 0⟩, ⟨[0x6d], .memory, 0⟩, ⟨[0x74], .table, 0⟩] }

theorem exchange_round_trip : ∃ program, Compile.compile exchange none = .ok program ∧
    exchange.Indexed ∧ (∀ item ∈ exchange.exports, Reader.Named item.kind) ∧
    ∀ name depth, match program.refusal? with
      | some refusal =>
        Loaded.load name program depth = .error (.raised (some (refusal.message name)))
      | none => ∃ loaded, Loaded.load name program depth = .ok loaded ∧ loaded.Describes exchange := by
  have indexed : exchange.Indexed := by simp [Wasm.Module.Indexed, exchange]
  have kinds : ∀ item ∈ exchange.exports, Reader.Named item.kind := by simp [exchange, Reader.Named]
  exact ⟨_, rfl, indexed, kinds, (description_round_trip exchange none _ rfl indexed kinds).2.2.1⟩

def counter : Wasm.Module :=
  { Wasm.Module.empty with
    name := [0x6d]
    globals := [⟨some ⟨[0x65, 0x6e, 0x76], [0x67]⟩, ⟨.i32, true⟩, []⟩] }

def counterUnit : Target.Program where
  namePrefix := "w2l"
  functionNames := []
  cells := [true]
  name := [0x6d]
  functionImports := []
  memories := []
  tables := []
  refs := []
  globals := [.imported ⟨[0x65, 0x6e, 0x76], [0x67]⟩]
  elements := []
  data := []
  functions := []
  exports := []
  start := none
  importList := [⟨[0x65, 0x6e, 0x76], [0x67], .global, [0x69], false⟩]
  exportList := []

theorem mutable_import_forgotten : ∃ loaded, Compile.compile counter none = .ok counterUnit ∧
    Loaded.load [] counterUnit defaultDepth = .ok loaded ∧ counter.importExterns = [⟨[0x65, 0x6e, 0x76], [0x67], .global, [0x69], true⟩] ∧
    loaded.imports = [⟨[0x65, 0x6e, 0x76], [0x67], .global, [0x69], false⟩] := by
  have fits : counterUnit.refusal? = none := rfl
  have loads : Loaded.load [] counterUnit defaultDepth = Loaded.ofProgram counterUnit defaultDepth := by
    simp only [Loaded.load, fits]
  rw [loads, program_loaded counterUnit defaultDepth (by simp [counterUnit, Reader.Named]) (by simp [counterUnit])]
  exact ⟨_, rfl, rfl, rfl, rfl⟩

end WasmLua.Exec
