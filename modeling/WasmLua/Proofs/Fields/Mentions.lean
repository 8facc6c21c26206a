import Mathlib
import WasmLua.Target.Printer

namespace WasmLua.Target

open List

inductive Field where
  | function (index : Nat)
  | memory (index : Nat)
  | table (index : Nat)
  | ref (index : Nat)
  | global (index : Nat)
deriving DecidableEq, Repr

def Field.text : Field → String
  | .function index => s!"m.f{index}"
  | .memory index => s!"m.mem{index}"
  | .table index => s!"m.table{index}"
  | .ref index => s!"m.r{index}"
  | .global index => s!"m.g{index}"

section Mentioned

def Atom.fields : Atom → List Field
  | .ref function => [.ref function.toNat]
  | _ => []

def Constant.fields : Constant → List Field
  | .atom value => value.fields
  | .global index => [.global index]
  | .arith _ _ a b => a.fields ++ b.fields

def Operand.fields : Operand → List Field
  | .atom value => value.fields
  | _ => []

/-- Loads, stores and the other operations on memory have the first memory only. -/
def Computation.fields : Computation → List Field
  | .unary _ a => a.fields
  | .binary _ a b => a.fields ++ b.fields
  | .load _ address _ => .memory 0 :: address.fields
  | .memorySize => [.memory 0]
  | .memoryGrow delta => .memory 0 :: delta.fields
  | .global index => [.global index]
  | .tableGet table index => .table table.toNat :: index.fields
  | .tableGrow table value delta => .table table.toNat :: (value.fields ++ delta.fields)
  | .tableSize table => [.table table.toNat]

def Callee.fields : Callee → List Field
  | .defined _ => []
  | .imported function => [.function function]
  | .element table index _ => .table table.toNat :: index.fields

/-- A global that is set counts as read: of a cell, the field is read to reach its value. -/
def Action.fields : Action → List Field
  | .setSlot _ value => value.fields
  | .setLocal _ value => value.fields
  | .move pairs => pairs.flatMap (·.2.fields)
  | .compute _ value => value.fields
  | .call _ _ callee args => callee.fields ++ args.flatMap Operand.fields
  | .store _ address _ value => .memory 0 :: (address.fields ++ value.fields)
  | .setGlobal index value => .global index :: value.fields
  | .tableSet table index value => .table table.toNat :: (index.fields ++ value.fields)
  | .tableFill table index value count =>
    .table table.toNat :: (index.fields ++ value.fields ++ count.fields)
  | .memoryCopy target source count => .memory 0 :: (target.fields ++ source.fields ++ count.fields)
  | .memoryFill target value count => .memory 0 :: (target.fields ++ value.fields ++ count.fields)
  | .unreachable => []

def Test.fields : Test → List Field
  | .nonzero value => value.fields
  | .zero value => value.fields
  | .equals value _ => value.fields
  | .between value _ _ => value.fields

def Condition.fields : Condition → List Field
  | .value test => test.fields
  | _ => []

mutual

def Stmt.fields : Stmt → List Field
  | .act action => action.fields
  | .ret values => values.flatMap Operand.fields
  | .choose arms => arms.fields
  | .once body => body.fields
  | .forever body => body.fields
  | _ => []

def Block.fields : Block → List Field
  | .done => []
  | .next first rest => first.fields ++ rest.fields

def Arms.fields : Arms → List Field
  | .none => []
  | .otherwise body => body.fields
  | .arm condition body rest => condition.fields ++ body.fields ++ rest.fields

end

def ExportValue.fields : ExportValue → List Field
  | .function callee => callee.fields
  | .table index => [.table index.toNat]
  | .memory index => [.memory index.toNat]
  | .global index => [.global index.toNat]

end Mentioned

inductive Assignment where
  | function (index : Nat) (origin : Wasm.Import)
  | memory (index : Nat) (provision : Provision)
  | table (index : Nat) (provision : Provision)
  | ref (init : RefInit)
  | global (index : Nat) (init : GlobalInit)

namespace Assignment

def field : Assignment → Field
  | .function index _ => .function index
  | .memory index _ => .memory index
  | .table index _ => .table index
  | .ref init => .ref init.function
  | .global index _ => .global index

def reads : Assignment → List Field
  | .ref init => init.callee.fields
  | .global _ (.created init) => init.fields
  | _ => []

def line (program : Program) : Assignment → String
  | .function index origin =>
    s!"m.f{index} = " ++ apply program.namePrefix "import_func" ("imports" :: Program.originText origin)
  | .memory index provision => program.provisionText s!"m.mem{index}" "memory" provision
  | .table index provision => program.provisionText s!"m.table{index}" "table" provision
  | .ref init => program.refText init
  | .global index init => program.globalInitText index init

lemma line_assigns (program : Program) (assignment : Assignment) :
    ∃ value, assignment.line program = assignment.field.text ++ " = " ++ value := by
  cases assignment with
  | function index origin | memory index provision | table index provision | ref init => exact ⟨_, rfl⟩
  | global index init => exact ⟨_, rfl⟩

end Assignment

inductive Step where
  | assign (assignment : Assignment)
  | checkElement (element : ElementInit)
  | checkData (data : DataInit)
  -- A piece of a segment, with the position of its first item.
  | writeElement (element : ElementInit) (piece : Nat × List (Option Nat))
  | writeData (data : DataInit) (piece : Nat × Bytes)
  | publish (item : Bytes × ExportValue)

namespace Step

def assignment? : Step → Option Assignment
  | .assign assignment => some assignment
  | _ => none

def assigns (step : Step) : Option Field := step.assignment?.map (·.field)

def reads : Step → List Field
  | .assign assignment => assignment.reads
  | .checkElement element => .table element.table.toNat :: element.offset.fields
  | .checkData data => .memory data.memory.toNat :: data.offset.fields
  | .writeElement element piece =>
    .table element.table.toNat :: (element.offset.fields ++ piece.2.filterMap (·.map .ref))
  | .writeData data _ => .memory data.memory.toNat :: data.offset.fields
  | .publish item => item.2.fields

def line (program : Program) : Step → String
  | .assign assignment => assignment.line program
  | .checkElement element =>
    apply program.namePrefix "check_table"
      [s!"m.table{element.table}", program.constantText element.offset, toString element.functions.length]
  | .checkData data =>
    apply program.namePrefix "check_memory" [s!"m.mem{data.memory}", program.constantText data.offset, toString data.bytes.length]
  | .writeElement element piece =>
    apply program.namePrefix "init_table"
      [s!"m.table{element.table}", program.offsetText element.offset piece.1, toString piece.2.length,
        braced (" " ++ commas (piece.2.map fun
          | some function => s!"m.r{function}"
          | none => "nil") ++ " ")]
  | .writeData data piece =>
    apply program.namePrefix "init_memory" [s!"m.mem{data.memory}", program.offsetText data.offset piece.1, Quoted.text piece.2]
  | .publish item => program.exportText item

end Step

structure Stage where
  name : String
  params : List String
  opening : List String
  steps : List Step

def Stage.lines (program : Program) (stage : Stage) : List String :=
  program.routineLines stage.name stage.params (stage.opening ++ stage.steps.map (·.line program))

namespace Program

section Stages

variable (program : Program)

def functionSteps : List Assignment := program.functionImports.map fun (index, origin) => .function index origin

def memorySteps : List Assignment := program.memories.mapIdx .memory

def tableSteps : List Assignment := program.tables.mapIdx .table

def refSteps : List Assignment := program.refs.map .ref

def globalSteps : List Assignment := program.globals.mapIdx .global

def assignments : List Assignment := program.functionSteps ++ program.memorySteps ++ program.tableSteps ++ program.refSteps
    ++ program.globalSteps

def checkSteps : List Step := program.elements.map .checkElement ++ program.data.map .checkData

def segmentSteps : List Step := (program.elements.flatMap fun element =>
      (chunks elementChunk element.functions).map (.writeElement element))
    ++ program.data.flatMap fun data => (chunks dataChunk data.bytes).map (.writeData data)

def exportSteps : List Step := program.exports.map .publish

def stages : List Stage := [⟨"init_functions", ["m", "imports"], [], program.functionSteps.map .assign⟩,
    ⟨"init_memories", ["m", "imports"], [], program.memorySteps.map .assign⟩,
    ⟨"init_tables", ["m", "imports"], [], program.tableSteps.map .assign⟩, ⟨"init_refs", ["m"], [], program.refSteps.map .assign⟩,
    ⟨"init_globals", ["m", "imports"], [], program.globalSteps.map .assign⟩,
    ⟨"check_segments", ["m"], [], program.checkSteps⟩, ⟨"init_segments", ["m"], [], program.segmentSteps⟩,
    ⟨"init_exports", ["m"], if program.exports.isEmpty then [] else ["local e = m.exports"], program.exportSteps⟩]

def steps : List Step := program.stages.flatMap (·.steps)

def uses : List Step := program.checkSteps ++ program.segmentSteps ++ program.exportSteps

def codeFields : List Field := (program.start.elim [] Callee.fields) ++ program.functions.flatMap (·.body.fields)

lemma steps_eq : program.steps = program.assignments.map .assign ++ program.uses := by
  simp [steps, stages, assignments, uses]

lemma uses_assign : program.uses.filterMap Step.assignment? = [] := by
  simp [uses, checkSteps, segmentSteps, exportSteps, Step.assignment?, filterMap_flatMap, filterMap_map, Function.comp_def]

lemma steps_assign : program.steps.filterMap Step.assignment? = program.assignments := by
  rw [steps_eq, filterMap_append, uses_assign, append_nil, filterMap_map]
  exact filterMap_some

lemma map_numbered {α β γ : Type} {items : List α} {number : Nat → α → β} {change : β → γ} :
    (items.mapIdx number).map change = items.mapIdx fun i item => change (number i item) := by
  apply ext_getElem?
  intro i
  simp [getElem?_mapIdx, Function.comp_def]

lemma function_lines : (program.functionSteps.map Step.assign).map (·.line program)
      = program.functionImports.map fun (index, origin) =>
        s!"m.f{index} = " ++ apply program.namePrefix "import_func" ("imports" :: originText origin) := by
  rw [functionSteps, map_map, map_map]
  rfl

lemma ref_lines : (program.refSteps.map Step.assign).map (·.line program) = program.refs.map program.refText := by
  rw [refSteps, map_map, map_map]
  rfl

lemma check_lines : program.checkSteps.map (·.line program) = program.checks := by
  rw [checkSteps, map_append, map_map, map_map]
  rfl

lemma segment_lines : program.segmentSteps.map (·.line program)
      = program.elements.flatMap program.elementTexts ++ program.data.flatMap program.dataTexts := by
  rw [segmentSteps, map_append, map_flatMap, map_flatMap]
  simp only [map_map]
  rfl

lemma export_lines : program.exportLines = program.routineLines "init_exports" ["m"]
      ((if program.exports.isEmpty then [] else ["local e = m.exports"]) ++ program.exportSteps.map (·.line program)) := by
  rw [exportLines, exportSteps, map_map]
  cases program.exports with
  | nil | cons first rest => rfl

lemma setup_staged : program.setupRoutines ++ [program.exportLines] = program.stages.map (Stage.lines program) := by
  rw [export_lines]
  simp only [stages, map_cons, map_nil, Stage.lines, nil_append, function_lines,
    ref_lines, check_lines, segment_lines, memorySteps, tableSteps, globalSteps, map_numbered]
  rfl

lemma instantiate_staged : program.instantiateLines = program.routineLines "instantiate" ["imports"]
      (("local m = " ++ braced (" exports = " ++ braced "" ++ " "))
        :: (program.stages.map fun stage => apply program.namePrefix stage.name stage.params) ++ program.startText ++ ["return m"]) := rfl

end Stages

end Program

end WasmLua.Target
