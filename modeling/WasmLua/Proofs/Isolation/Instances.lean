import WasmLua.Proofs.Isolation.Interleaving
import WasmLua.Proofs.Isolation.Linking
import WasmLua.Proofs.Link.Resolution

namespace WasmLua.Exec

variable {ω : Type}

inductive Side where
  | first
  | second
deriving DecidableEq

/-- Two instances of a unit, made one after the other. What is supplied to each of them stays in a territory of its own. -/
structure Neighbours (loaded : Loaded) (supply : Side → Supply ω) (territory : Side → Territory)
    (exports : Side → Exports) (before middle start : Store ω) : Prop where
  source : ∃ program code, loaded.source = .program program code
  closed : ∀ side, before.Closed (territory side)
  apart : (territory .first).Apart (territory .second)
  supplied : ∀ side, (supply side).Inside (territory side) before.pairs
  first : loaded.instantiate (supply .first) before = .ok (exports .first) middle
  second : loaded.instantiate (supply .second) middle = .ok (exports .second) start

/-- What belongs to an instance: what is supplied to it, and what was made for it. -/
def realm (territory : Side → Territory) (before middle start : Store ω) : Side → Territory
  | .first => (territory .first).grown before middle
  | .second => (territory .second).grown middle start

def Side.number (before middle : Store ω) : Side → Nat
  | .first => before.instances.size
  | .second => middle.instances.size

/-- The same globals, memories and tables of an instance, up to the names of pairs. -/
structure Alike (names : Target.Names) (pairs : Renaming) (id : Nat) (alone mixed : Store ω) : Prop where
  globals : ∀ index, Link.global names mixed (mixed.instances.getD id default) index =
    Value.rename pairs <$> Link.global names alone (alone.instances.getD id default) index
  memories : ∀ index, mixed.memory? ((mixed.instances.getD id default).memories.getD index .null) =
    alone.memory? ((alone.instances.getD id default).memories.getD index .null)
  tables : ∀ index, Option.Rel (Table.Renamed pairs)
    (alone.table? ((alone.instances.getD id default).tables.getD index .null))
    (mixed.table? ((mixed.instances.getD id default).tables.getD index .null))

section Making

variable {territory other : Territory} {before after : Store ω}

lemma instantiated_spares (instantiated : Instantiated territory before after) (closed : before.Closed other)
    (apart : territory.Apart other) : after.Closed other where
  toHeld := Territory.held_elsewhere closed
    (fun address member => instantiated.objects address (closed.objectBound address member) fun inside =>
      apart.objects address inside member)
    (fun id member => instantiated.instances id (closed.instanceBound id member) fun inside =>
      apart.instances id inside member)
    instantiated.closed.pure instantiated.pairs
  objectBound := fun address member =>
    Nat.lt_of_lt_of_le (closed.objectBound address member) instantiated.objectCount
  instanceBound := fun id member => by
    have bound := closed.instanceBound id member
    rw [instantiated.instanceCount]
    omega

lemma grown_apart (after : Store ω) (closed : before.Closed other) (apart : territory.Apart other) :
    (territory.grown before after).Apart other where
  objects := fun address member also => by
    have bound := closed.objectBound address also
    exact member.elim (fun old => apart.objects address old also) fun new => by omega
  instances := fun id member also => by
    have bound := closed.instanceBound id also
    exact member.elim (fun old => apart.instances id old also) fun new => by omega

lemma supply_mono {supply : Supply ω} {limit larger : Nat} (le : limit ≤ larger)
    (inside : supply.Inside territory limit) : supply.Inside territory larger := by
  intro fields member entry also
  have held := inside fields member entry also
  generalize entry.2 = entity at held ⊢
  cases entity with
  | value found => exact Value.inside_mono le held
  | _ => exact held

end Making

variable {id : Nat} {low : Int}

section Neighbours

variable {loaded : Loaded} {supply : Side → Supply ω} {territory : Side → Territory} {exports : Side → Exports}
  {before middle start : Store ω}

section

variable (neighbours : Neighbours loaded supply territory exports before middle start)

include neighbours

lemma neighbours_enclosed :
    Enclosed (territory .first) before (exports .first).values middle ∧
      Enclosed (territory .second) middle (exports .second).values start := by
  obtain ⟨program, code, source⟩ := neighbours.source
  have first := loaded_inside source (neighbours.closed .first) (neighbours.supplied .first) neighbours.first
  have closed := instantiated_spares first.1 (neighbours.closed .second) neighbours.apart
  have supplied := supply_mono first.1.pairs (neighbours.supplied .second)
  exact ⟨first, loaded_inside source closed supplied neighbours.second⟩

lemma neighbours_closed (side : Side) : start.Closed (realm territory before middle start side) := by
  obtain ⟨first, second⟩ := neighbours_enclosed neighbours
  have apart := grown_apart middle (neighbours.closed .second) neighbours.apart
  cases side with
  | first => exact instantiated_spares second.1 first.1.closed (Territory.apart_symm apart)
  | second => exact second.1.closed

lemma neighbours_separate :
    Separate (realm territory before middle start) exports where
  apart := by
    obtain ⟨first, second⟩ := neighbours_enclosed neighbours
    have near := grown_apart middle (neighbours.closed .second) neighbours.apart
    have apart := grown_apart start first.1.closed (Territory.apart_symm near)
    intro side other different
    cases side <;> cases other
    · exact absurd rfl different
    · exact Territory.apart_symm apart
    · exact apart
    · exact absurd rfl different
  reach := by
    obtain ⟨first, second⟩ := neighbours_enclosed neighbours
    intro side name target found
    have inside : ((exports side).value name).Inside (realm territory before middle start side) start.pairs := by
      cases side with
      | first => exact Value.inside_mono second.1.pairs (export_value_inside first.2 name)
      | second => exact export_value_inside second.2 name
    rw [found] at inside
    exact inside

end

lemma beside_alike {side : Side} {floor : Nat} {pairs : Renaming} {alone mixed : Store ω}
    (beside : Beside territory side floor pairs alone mixed) (member : (territory side).instances id)
    {names : Target.Names} : Alike names pairs id alone mixed := by
  have related : ((territory side).stage pairs mixed).related alone mixed := beside.shown
  have instances := Territory.instance_shown beside.shown member
  refine ⟨fun index => ?_, fun index => ?_, fun index => ?_⟩
  · have matched := Stage.global_matched related (Nat.le_refl _) names instances index
    generalize Link.global names alone _ index = left at matched ⊢
    generalize Link.global names mixed _ index = right at matched ⊢
    cases matched with
    | ok shows => exact congrArg Except.ok shows.2
    | error fault => rfl
  · exact Stage.memory_shown related (Stage.array_getD instances.memories index)
  · have found := Stage.table_shown related (Stage.array_getD instances.tables index)
    exact rel_mono (fun _ _ tables => tables.1) found

end Neighbours

section Couriers

open Execution Link Number Code

/-- A module that replaces a number in an imported global, and runs a function that it is handed. -/
def courier : Wasm.Module :=
  { Wasm.Module.empty with
    types := [⟨[], [.i64]⟩, ⟨[.funcref], [.i64]⟩]
    functions := [⟨[], 0, none, [], [.indexed .globalGet 0, .i64Const 1, .indexed .globalSet 0, .endBlock]⟩, ⟨[], 1, none, [],
        [.i32Const 1, .indexed .localGet 0, .tableOp .tableSet 0, .i32Const 1, .callIndirect 0 0, .endBlock]⟩]
    tables := [⟨none, .funcref, ⟨2, none⟩⟩]
    globals := [⟨some ⟨[0x65], [0x67]⟩, ⟨.i64, true⟩, []⟩]
    elements := [⟨0, [.i32Const 0, .endBlock], [0], false⟩]
    exports := [⟨[0x72], .func, 1⟩, ⟨[0x73], .func, 0⟩, ⟨[0x74], .table, 0⟩] }

def swapGlobal : Target.Function where
  index := 0
  name := "f0"
  params := 0
  locals := []
  slots := 2
  usesFlag := false
  spilled := false
  body := .next (.act (.compute 0 (.global 0))) (.next (.act (.setGlobal 0 (.atom (.i64 1)))) (.next (.ret [.slot 0]) .done))

def runHanded : Target.Function where
  index := 1
  name := "f1"
  params := 1
  locals := []
  slots := 2
  usesFlag := false
  spilled := false
  body := .next (.act (.tableSet 0 (.atom (.i32 1)) (.local 0)))
    (.next (.act (.call 0 1 (.element 0 (.atom (.i32 1)) [0x70, 0x72, 0x49]) [])) (.next (.ret [.slot 0]) .done))

def courierUnit : Target.Program where
  namePrefix := "w2l"
  functionNames := ["f0", "f1"]
  cells := [true]
  name := []
  functionImports := []
  memories := []
  tables := [.created 2 10000000]
  refs := [⟨0, [0x70, 0x72, 0x49], .defined 0⟩]
  globals := [.imported ⟨[0x65], [0x67]⟩]
  elements := [⟨0, .atom (.i32 0), [some 0]⟩]
  data := []
  functions := [swapGlobal, runHanded]
  exports := [([0x72], .function (.defined 1)), ([0x73], .function (.defined 0)), ([0x74], .table 0)]
  start := none
  importList := [⟨[0x65], [0x67], .global, [0x49], false⟩]
  exportList := [⟨[], [0x72], .func, [0x70, 0x61, 0x72, 0x49], false⟩,
    ⟨[], [0x73], .func, [0x70, 0x72, 0x49], false⟩, ⟨[], [0x74], .table, [0x61], false⟩]

def courierLoaded : Loaded :=
  ⟨[], courierUnit.importList, courierUnit.exportList, defaultDepth, .program courierUnit (.ofProgram courierUnit)⟩

def swapRef (id : Nat) : Value := .ref id 0 [0x70, 0x72, 0x49] (.defined (.known id) 0)

def courierOwner (id cell table : Nat) : Instance :=
  ⟨#[.null, .null], #[swapRef id, .null], #[], #[.object table], #[.object cell],
    [([0x72], .function (.defined (.known id) 1)), ([0x73], .function (.defined (.known id) 0)), ([0x74], .object table)]⟩

def bareTable : Table := .empty (.ofInt 2) (.ofInt 10000000)

def filledTable (id : Nat) : Table := bareTable.put (.ofInt 0) (swapRef id)

def courierImports (cell : Nat) : Imports := [([0x65], [([0x67], .object cell)])]

def withTable (store : Store Unit) (table : Table) : Store Unit :=
  { store with objects := store.objects.push ⟨.null, .table table⟩ }

def settled (store : Store Unit) (cell : Nat) : Store Unit :=
  { withTable store (filledTable store.instances.size) with
    instances := store.instances.push (courierOwner store.instances.size cell store.objects.size)
    events := store.events.push .instantiated }

variable (store : Store Unit)

lemma table_replaced (table other : Table) :
    (withTable store table).setTable (.object store.objects.size) other = withTable store other := by
  have pushed : (store.objects.push ⟨.null, .table table⟩).modify store.objects.size
      (fun object => { object with body := .table other }) = store.objects.push ⟨.null, .table other⟩ := by
    refine Array.ext (by simp) fun i low high => ?_
    rw [Array.size_push] at high
    rcases Nat.lt_succ_iff_lt_or_eq.mp high with old | rfl
    · simp [Array.getElem_modify, Array.getElem_push, old, Nat.ne_of_gt old]
    · simp [Array.getElem_modify]
  simp only [withTable, Store.setTable, Store.modifyObject, pushed]

def handOver : Segment := .element ⟨0, .atom (.i32 0), [some 0]⟩

lemma courier_reach (id cell : Nat) (table : Table) :
    handOver.reach (courierOwner id cell store.objects.size) (withTable store table)
      = .ok (.table table, table.size) (withTable store table) := by
  have place : handOver.target (courierOwner id cell store.objects.size) = .object store.objects.size := rfl
  have held : (withTable store table).object? (.object store.objects.size) = some ⟨.null, .table table⟩ := by
    simp [withTable, Store.object?]
  rw [Segment.reach_eq, Segment.found?, place, held]
  rfl

lemma courier_prepared (cell : Nat) : prepare courierUnit (courierImports cell) store.instances.size store =
      .ok (courierOwner store.instances.size cell store.objects.size) (withTable store bareTable) := by
  have small : (ofInt 2).lt (Arithmetic.unsigned (ofInt 0) + .ofInt 1) = false := by
    decide +kernel
  have reached := courier_reach store store.instances.size cell bareTable
  generalize owned : courierOwner store.instances.size cell store.objects.size = owner at reached ⊢
  have fits : (if bareTable.size.lt (Arithmetic.unsigned (ofInt 0) + .ofInt 1)
      then .error (.trap handOver.trap) else .ok () : Except Fault Unit) = .ok () := if_neg (by simp [bareTable, Table.empty, small])
  have passed : handOver.check courierUnit owner (withTable store bareTable) = .ok () (withTable store bareTable) :=
    (bind_runs _ _ _ _ reached).trans (except_runs _ fits)
  have checked : checkSegments courierUnit owner (withTable store bareTable) = .ok () (withTable store bareTable) := by
    rw [Segment.check_segments]
    exact bind_runs (handOver.check courierUnit owner) (fun _ => pure ()) _ _ passed
  subst owned
  exact bind_runs (checkSegments courierUnit _) (fun _ => pure (exports courierUnit store.instances.size _)) _ _ checked

lemma courier_written (id cell : Nat) :
    writeSegments courierUnit (courierOwner id cell store.objects.size) (withTable store bareTable)
      = .ok () (withTable store (filledTable id)) := by
  have filled : (Body.table bareTable).fill (.ofInt 0) [swapRef id] = .ok (.table (filledTable id)) := by
    have first : Arithmetic.unsigned (ofInt 0) - .ofInt 1 + .ofInt 1 = ofInt 0 := by
      decide +kernel
    have number : (Arithmetic.unsigned (ofInt 0) - .ofInt 1).isNaN = false := by decide +kernel
    simp only [Body.fill, number, Bool.false_and, Bool.false_eq_true, if_false, Body.writeFrom, Body.put, Nat.cast_one, first]
    rfl
  have piece : handOver.writePiece courierUnit (courierOwner id cell store.objects.size) (0, [swapRef id])
      (withTable store bareTable) = .ok () (withTable store (filledTable id)) := by
    refine (bind_runs _ _ _ _ (courier_reach store id cell bareTable)).trans ?_
    refine (bind_runs _ _ _ _ (except_runs _ filled)).trans ?_
    rw [← table_replaced store bareTable (filledTable id)]
    rfl
  have pieces : handOver.write courierUnit (courierOwner id cell store.objects.size)
      (withTable store bareTable) = .ok () (withTable store (filledTable id)) :=
    bind_runs _ (fun _ => pure ()) _ _ piece
  rw [Segment.write_segments]
  exact bind_runs _ (fun _ => pure ()) _ _ pieces

lemma courier_instantiated (cell : Nat) : courierLoaded.instantiate [([0x65], [([0x67], .value (.object cell))])] store =
      .ok ⟨(courierOwner store.instances.size cell store.objects.size).exports⟩ (settled store cell) := by
  have prepared := courier_prepared store cell
  have written := courier_written { store with
    instances := store.instances.push (courierOwner store.instances.size cell store.objects.size) }
    store.instances.size cell
  have linked : Link.instantiate courierUnit (.ofProgram courierUnit) defaultDepth (courierImports cell) store
      = .ok (courierOwner store.instances.size cell store.objects.size)
        { settled store cell with events := store.events } :=
    (bind_runs (prepare courierUnit (courierImports cell) store.instances.size) _ _ _ prepared).trans
      (bind_runs (writeSegments courierUnit _) _ _ _ written)
  have embedded : (Embedding.run (Link.instantiate courierUnit (.ofProgram courierUnit) defaultDepth
      (courierImports cell)) : Embedding Unit Instance) store
      = .ok (courierOwner store.instances.size cell store.objects.size)
        { settled store cell with events := store.events } := by
    rw [Embedding.run, linked]
  exact Supply.bind_entered embedded

def pairOf (id : Nat) (low : Int) : Value := .pair id (.number (.ofInt low)) (.number (.ofInt 0))

def cells : Store Unit :=
  { Store.empty () with objects := #[⟨pairOf 1 0, .cell⟩, ⟨pairOf 2 0, .cell⟩], pairs := 3 }

def Side.cell : Side → Nat
  | .first => 0
  | .second => 1

def delivery (side : Side) : Supply Unit := [([0x65], [([0x67], .value (.object side.cell))])]

def cellOf (side : Side) : Territory := ⟨fun address => address = side.cell, fun _ => False⟩

def courierExports : Side → Exports
  | .first => ⟨(courierOwner 0 0 2).exports⟩
  | .second => ⟨(courierOwner 1 1 3).exports⟩

lemma couriers_neighbours : Neighbours courierLoaded delivery cellOf courierExports cells (settled cells 0)
    (settled (settled cells 0) 1) where
  source := ⟨_, _, rfl⟩
  closed := fun side => by
    refine ⟨⟨?_, nofun, nofun, by decide⟩, ?_, nofun⟩
    · rintro address object rfl found
      cases side <;> cases found <;> exact ⟨⟨by decide, trivial, trivial⟩, trivial⟩
    · rintro address rfl
      cases side <;> decide
  apart := by
    refine ⟨?_, nofun⟩
    rintro address rfl also
    cases also
  supplied := fun side fields member entry also => by
    cases List.mem_singleton.mp member
    cases List.mem_singleton.mp also
    exact rfl
  first := courier_instantiated cells 0
  second := courier_instantiated (settled cells 0) 1

def couriersStart : Store Unit := settled (settled cells 0) 1

def errands : List (Call Side) := [⟨.first, [0x73], []⟩, ⟨.second, [0x73], []⟩, ⟨.first, [0x72], [.held (swapRef 0)]⟩]

def courierStore (left right : Table) (one two : Value) (pairs : Nat) : Store Unit :=
  ⟨#[⟨one, .cell⟩, ⟨two, .cell⟩, ⟨.null, .table left⟩, ⟨.null, .table right⟩],
    #[courierOwner 0 0 2, courierOwner 1 1 3], #[], #[], (), #[.instantiated, .instantiated], pairs⟩

lemma act_runs {context : Context Unit} {action : Target.Action} {before after : Running Unit}
    (rest : Target.Block) (ran : perform context action before = .ok () after) :
    (Target.Block.next (.act action) rest).run (meaning context) loopRounds none before
      = rest.run (meaning context) loopRounds none after := by
  rw [Target.Block.run, Target.Stmt.run]
  simp only [bind, EStateM.bind, meaning, ran]
  rfl

section Runs

variable {left : Table} (right : Table) (one two : Value) (pairs depth : Nat)

lemma handed_runs (size : left.size = .ofInt 2) : (ofProgram courierUnit).call (depth + 2) (.defined (.known 0) 1) [swapRef 1]
        (courierStore left right one two pairs)
      = .ok [two] (courierStore (left.put (.ofInt 1) (swapRef 1)) right one (pairOf pairs 1) (pairs + 1)) := by
  have second : Arithmetic.unsigned (ofInt 1) = ofInt 1 := by decide +kernel
  have inside : (ofInt 2).le (ofInt 1) = false := by decide +kernel
  have number : (ofInt 1).isNaN = false := by decide +kernel
  have set : left.set (.ofInt 1) (swapRef 1) = .ok (left.put (.ofInt 1) (swapRef 1)) := by
    simp only [Table.set, size, second, inside, number, Bool.false_eq_true, if_false]
  have measure := (Table.put_measures left (.ofInt 1) (swapRef 1)).1
  have called : (left.put (.ofInt 1) (swapRef 1)).callee (.ofInt 1) [0x70, 0x72, 0x49] = .ok (.defined (.known 1) 0) := by
    simp only [Table.callee, measure, size, second, inside, Bool.false_eq_true, if_false, Table.element_put, BEq.rfl, if_true]
    rfl
  let context : Context Unit := ⟨.ofProgram courierUnit, (ofProgram courierUnit).call (depth + 1), .known 0⟩
  have stored : perform context (.tableSet 0 (.atom (.i32 1)) (.local 0))
      ⟨frameOf runHanded [swapRef 1], courierStore left right one two pairs⟩
        = .ok () ⟨frameOf runHanded [swapRef 1], courierStore (left.put (.ofInt 1) (swapRef 1)) right one two pairs⟩ := by
    change (Run.ofExcept (left.set (.ofInt 1) (swapRef 1)) >>= setTable (.known 0) 0) _ = _
    rw [set]
    rfl
  have invoked : perform context (.call 0 1 (.element 0 (.atom (.i32 1)) [0x70, 0x72, 0x49]) [])
      ⟨frameOf runHanded [swapRef 1], courierStore (left.put (.ofInt 1) (swapRef 1)) right one two pairs⟩
        = .ok () ⟨⟨#[swapRef 1], #[two, .null]⟩,
          courierStore (left.put (.ofInt 1) (swapRef 1)) right one (pairOf pairs 1) (pairs + 1)⟩ := by
    change (do
      let call ← Run.ofExcept ((left.put (.ofInt 1) (swapRef 1)).callee (.ofInt 1) [0x70, 0x72, 0x49])
      let values ← Run.onStore (context.invoke call [])
      setSlots [0] values : Run Unit Unit) _ = _
    rw [called]
    rfl
  have ended : runHanded.body.run (meaning context) loopRounds none
      ⟨frameOf runHanded [swapRef 1], courierStore left right one two pairs⟩ = _ :=
    (act_runs _ stored).trans (act_runs (.next (.ret [.slot 0]) .done) invoked)
  change runBody context runHanded [swapRef 1] _ = _
  rw [runBody, ended]
  rfl

lemma swap_answered {word : Int64} (read : ((ofInt 0).toUInt64 <<< 32 ||| (ofInt low).toUInt64).toInt64 = word) :
    answer courierLoaded courierExports ⟨.second, [0x73], []⟩ (courierStore left right one (pairOf id low) pairs)
      = (.ok [.int64 word], courierStore left right one (pairOf pairs 1) (pairs + 1)) := by
  have called : (courierExports .second).call courierLoaded [0x73] [] (courierStore left right one (pairOf id low) pairs)
      = .ok [.int64 ((ofInt 0).toUInt64 <<< 32 ||| (ofInt low).toUInt64).toInt64]
        (courierStore left right one (pairOf pairs 1) (pairs + 1)) := rfl
  rw [answer, called, read]

lemma handed_answered (id : Nat) {word : Int64} (size : left.size = .ofInt 2)
    (read : ((ofInt 0).toUInt64 <<< 32 ||| (ofInt low).toUInt64).toInt64 = word) :
    answer courierLoaded courierExports ⟨.first, [0x72], [.held (swapRef 1)]⟩
        (courierStore left right one (pairOf id low) pairs) = (.ok [.int64 word],
        courierStore (left.put (.ofInt 1) (swapRef 1)) right one (pairOf pairs 1) (pairs + 1)) := by
  have ran : (Embedding.run (courierLoaded.callValue (.function (.defined (.known 0) 1)) [swapRef 1])
      : Embedding Unit (List Value)) (courierStore left right one (pairOf id low) pairs)
      = .ok [pairOf id low] (courierStore (left.put (.ofInt 1) (swapRef 1)) right one (pairOf pairs 1) (pairs + 1)) := by
    have handed : courierLoaded.callValue (.function (.defined (.known 0) 1)) [swapRef 1]
        (courierStore left right one (pairOf id low) pairs) = .ok _ _ :=
      handed_runs right one (pairOf id low) pairs 16382 size
    rw [Embedding.run, handed]
  have called : (courierExports .first).call courierLoaded [0x72] [.held (swapRef 1)]
      (courierStore left right one (pairOf id low) pairs)
      = .ok [.int64 ((ofInt 0).toUInt64 <<< 32 ||| (ofInt low).toUInt64).toInt64]
        (courierStore (left.put (.ofInt 1) (swapRef 1)) right one (pairOf pairs 1) (pairs + 1)) :=
    Supply.bind_entered ran
  rw [answer, called, read]

end Runs

def handover : List (Call Side) := [⟨.second, [0x73], []⟩, ⟨.first, [0x72], [.held (swapRef 1)]⟩]

end Couriers

end WasmLua.Exec
