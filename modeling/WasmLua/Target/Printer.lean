import WasmLua.Prelude.Text
import WasmLua.Target.Operation
import WasmLua.Target.Program
import WasmLua.Target.Quoted

namespace WasmLua.Target

open Quoted

def commas (parts : List String) : String := String.intercalate ", " parts

def braced (inner : String) : String := "\x7b" ++ inner ++ "\x7d"

def plainLiteral (value : Bytes) : String := "\"" ++ value.toText ++ "\""

def Atom.text (namePrefix : String) : Atom → String
  | .i32 value => toString value
  | .i64 value =>
    if value == 0 then helper namePrefix "i64_zero"
    else
      let word := value.toUInt64
      apply namePrefix "i64" [toString word.toUInt32, toString (word >>> 32).toUInt32]
  | .float .nan => helper namePrefix "nan"
  | .float (.infinity false) => helper namePrefix "inf"
  | .float (.infinity true) => "-" ++ helper namePrefix "inf"
  | .float .negZero => helper namePrefix "neg_zero"
  | .float value => value.text .binary64
  | .null => "nil"
  | .ref function => s!"m.r{function}"

def Arith.text : Arith → String
  | .add => "add"
  | .sub => "sub"
  | .mul => "mul"

namespace Names

def globalText (names : Names) (index : Nat) : String :=
  if names.isCell index then s!"m.g{index}.value" else s!"m.g{index}"

def functionText (names : Names) (function : Nat) : String := helper names.namePrefix (names.functionNames.getD function "")

def routine (names : Names) (name : String) (params : List String) : String :=
  "function " ++ helper names.namePrefix name ++ "(" ++ commas params ++ ")"

def constantText (names : Names) : Constant → String
  | .atom value => value.text names.namePrefix
  | .global index => names.globalText index
  | .arith type op a b =>
    apply names.namePrefix (type.text ++ "_" ++ op.text) [names.constantText a, names.constantText b]

end Names

structure Naming where
  names : Names
  params : Nat
  spilled : Bool

namespace Naming

def slot (naming : Naming) (index : Nat) : String :=
  if naming.spilled then s!"s[{index}]" else s!"s{index}"

def variableText (naming : Naming) (index : Nat) : String :=
  if naming.spilled && naming.params ≤ index then s!"l[{index}]" else s!"v{index}"

def operand (naming : Naming) : Operand → String
  | .slot index => naming.slot index
  | .local index => naming.variableText index
  | .atom value => value.text naming.names.namePrefix

def apply (naming : Naming) (name : String) (args : List String) : String := Target.apply naming.names.namePrefix name args

def table (index : UInt32) : String := s!"m.table{index}"

def computation (naming : Naming) : Computation → String
  | .unary op a => op.text naming.names.namePrefix (naming.operand a)
  | .binary op a b => op.text naming.names.namePrefix (naming.operand a) (naming.operand b)
  | .load access address offset =>
    naming.apply (loadHelper access) ["m.mem0", naming.operand address, toString offset]
  | .memorySize => "m.mem0.pages"
  | .memoryGrow delta => naming.apply "memory_grow" ["m.mem0", naming.operand delta]
  | .global index => naming.names.globalText index
  | .tableGet index i => naming.apply "table_get" [table index, naming.operand i]
  | .tableGrow index value delta =>
    naming.apply "table_grow" [table index, naming.operand value, naming.operand delta]
  | .tableSize index => naming.apply "table_size" [table index]

def callee (naming : Naming) : Callee → String × List String
  | .defined function => (naming.names.functionText function, ["m"])
  | .imported function => (s!"m.f{function}", [])
  | .element index i key =>
    (naming.apply "callee" [table index, naming.operand i, plainLiteral key], [])

def action (naming : Naming) : Action → String
  | .setSlot slot value => naming.slot slot ++ " = " ++ naming.operand value
  | .setLocal index value => naming.variableText index ++ " = " ++ naming.operand value
  | .move pairs =>
    commas (pairs.map fun pair => naming.slot pair.1) ++ " = " ++ commas (pairs.map fun pair => naming.operand pair.2)
  | .compute slot value => naming.slot slot ++ " = " ++ naming.computation value
  | .call slot results target args =>
    let (function, front) := naming.callee target
    let call := function ++ "(" ++ commas (front ++ args.map naming.operand) ++ ")"
    if results = 0 then call
    else commas ((List.range results).map fun i => naming.slot (slot + i)) ++ " = " ++ call
  | .store access address offset value =>
    naming.apply (storeHelper access) ["m.mem0", naming.operand address, toString offset, naming.operand value]
  | .setGlobal index value => naming.names.globalText index ++ " = " ++ naming.operand value
  | .tableSet index i value =>
    naming.apply "table_set" [table index, naming.operand i, naming.operand value]
  | .tableFill index i value count =>
    naming.apply "table_fill" [table index, naming.operand i, naming.operand value, naming.operand count]
  | .memoryCopy target source count =>
    naming.apply "memory_copy" ["m.mem0", "m.mem0", naming.operand target, naming.operand source, naming.operand count]
  | .memoryFill target value count =>
    naming.apply "memory_fill" ["m.mem0", naming.operand target, naming.operand value, naming.operand count]
  | .unreachable => naming.apply "trap" ["\"unreachable\""]

def test (naming : Naming) : Test → String
  | .nonzero value => naming.operand value ++ " ~= 0"
  | .zero value => naming.operand value ++ " == 0"
  | .equals value number => naming.operand value ++ s!" == {number}"
  | .between value low high =>
    let text := naming.operand value
    text ++ s!" >= {low} and " ++ text ++ s!" <= {high}"

def condition (naming : Naming) : Condition → String
  | .value test => naming.test test
  | .flagIs label => s!"br == {label}"
  | .flagSet => "br"

end Naming

def indent (lines : List String) : List String := lines.map ("\t" ++ ·)

mutual

def Stmt.lines (naming : Naming) : Stmt → List String
  | .act action => [naming.action action]
  | .setFlag label => [s!"br = {label}"]
  | .clearFlag => ["br = nil"]
  | .leave => ["break"]
  | .ret values =>
    if values.isEmpty then ["return"] else ["return " ++ commas (values.map naming.operand)]
  | .choose arms => arms.lines naming "if"
  | .once body => "repeat" :: indent (body.lines naming) ++ ["until true"]
  | .forever body => "while true do" :: indent (body.lines naming) ++ ["end"]

def Block.lines (naming : Naming) : Block → List String
  | .done => []
  | .next first rest => first.lines naming ++ rest.lines naming

def Arms.lines (naming : Naming) (word : String) : Arms → List String
  | .none => ["end"]
  | .otherwise body => "else" :: indent (body.lines naming) ++ ["end"]
  | .arm condition body rest =>
    (word ++ " " ++ naming.condition condition ++ " then") :: indent (body.lines naming) ++ rest.lines naming "elseif"

end

namespace Function

def naming (function : Function) (names : Names) : Naming := ⟨names, function.params, function.spilled⟩

def declarations (function : Function) (names : Names) : List String :=
  let naming := function.naming names
  let zero (type : Wasm.ValueType) : String := (Atom.zero type).text names.namePrefix
  let locals := function.locals.mapIdx fun i type => (function.params + i, zero type)
  let flag := if function.usesFlag then ["local br"] else []
  if function.spilled then
    (if locals.isEmpty then [] else
        ["local l = " ++ braced (commas (locals.map fun (index, value) => s!"[{index}] = " ++ value))])
      ++ (if function.slots = 0 then [] else ["local s = " ++ braced ""]) ++ flag
  else
    (locals.map fun (index, value) => "local " ++ naming.variableText index ++ " = " ++ value)
      ++ ((Program.chunks 16 (List.range function.slots)).map fun (_, slots) =>
        "local " ++ commas (slots.map naming.slot))
      ++ flag

def lines (function : Function) (names : Names) : List String :=
  let naming := function.naming names
  names.routine function.name ("m" :: (List.range function.params).map naming.variableText)
    :: indent (function.declarations names ++ function.body.lines naming) ++ ["end", ""]

def text (function : Function) (names : Names) : String := String.join ((function.lines names).map (· ++ "\n"))

end Function

namespace Program

def routineLines (program : Program) (name : String) (params body : List String) : List String :=
  program.routine name params :: indent body ++ ["end", ""]

def originText (origin : Wasm.Import) : List String := [text origin.module, text origin.field]

def maximumText (limits : Wasm.Limits) : String :=
  match limits.maximum with
  | some maximum => toString maximum
  | none => "nil"

def provisionText (program : Program) (target kind : String) (provision : Provision) : String := target ++ " = " ++
    match provision with
    | .imported origin limits =>
      apply program.namePrefix ("import_" ++ kind)
        ("imports" :: originText origin ++ [toString limits.initial, maximumText limits])
    | .created initial maximum =>
      apply program.namePrefix kind [toString initial, toString maximum]

def calleeText (program : Program) : Callee → String
  | .defined function => "function(...) return " ++ program.functionText function ++ "(m, ...) end"
  | .imported function => s!"m.f{function}"
  | .element _ _ _ => "nil"

def refText (program : Program) (ref : RefInit) : String := s!"m.r{ref.function} = " ++
    apply program.namePrefix "funcref" [plainLiteral ref.key, program.calleeText ref.callee]

def globalInitText (program : Program) (index : Nat) (init : GlobalInit) : String := s!"m.g{index} = " ++
    match init with
    | .imported origin => apply program.namePrefix "import_global" ("imports" :: originText origin)
    | .created value =>
      if program.isCell index then braced (" value = " ++ program.constantText value ++ " ")
      else program.constantText value

def offsetText (program : Program) (offset : Constant) (start : Nat) : String :=
  if start = 0 then program.constantText offset
  else program.constantText offset ++ s!" % 4294967296 + {start}"

def checks (program : Program) : List String := (program.elements.map fun element =>
    apply program.namePrefix "check_table"
      [s!"m.table{element.table}", program.constantText element.offset, toString element.functions.length])
  ++ program.data.map fun data =>
    apply program.namePrefix "check_memory" [s!"m.mem{data.memory}", program.constantText data.offset, toString data.bytes.length]

def elementTexts (program : Program) (element : ElementInit) : List String :=
  (chunks elementChunk element.functions).map fun (start, functions) =>
    apply program.namePrefix "init_table"
      [s!"m.table{element.table}", program.offsetText element.offset start, toString functions.length,
        braced (" " ++ commas (functions.map fun
          | some function => s!"m.r{function}"
          | none => "nil") ++ " ")]

def dataTexts (program : Program) (data : DataInit) : List String := (chunks dataChunk data.bytes).map fun (start, bytes) =>
    apply program.namePrefix "init_memory" [s!"m.mem{data.memory}", program.offsetText data.offset start, text bytes]

def exportText (program : Program) (item : Bytes × ExportValue) : String := "e[" ++ text item.1 ++ "] = " ++
    match item.2 with
    | .function callee => program.calleeText callee
    | .table index => s!"m.table{index}"
    | .memory index => s!"m.mem{index}"
    | .global index => s!"m.g{index}"

def startText (program : Program) : List String :=
  match program.start with
  | some (.defined function) => [program.functionText function ++ "(m)"]
  | some (.imported function) => [s!"m.f{function}()"]
  | _ => []

def setupRoutines (program : Program) : List (List String) :=
  let mem := program.memories.mapIdx fun i => program.provisionText s!"m.mem{i}" "memory"
  let tables := program.tables.mapIdx fun i => program.provisionText s!"m.table{i}" "table"
  [program.routineLines "init_functions" ["m", "imports"] (program.functionImports.map fun (index, origin) =>
        s!"m.f{index} = " ++ apply program.namePrefix "import_func" ("imports" :: originText origin)),
    program.routineLines "init_memories" ["m", "imports"] mem, program.routineLines "init_tables" ["m", "imports"] tables,
    program.routineLines "init_refs" ["m"] (program.refs.map program.refText),
    program.routineLines "init_globals" ["m", "imports"] (program.globals.mapIdx program.globalInitText),
    program.routineLines "check_segments" ["m"] program.checks, program.routineLines "init_segments" ["m"]
      (program.elements.flatMap program.elementTexts ++ program.data.flatMap program.dataTexts)]

def setup (program : Program) : List String := program.setupRoutines.flatten

def exportLines (program : Program) : List String := program.routineLines "init_exports" ["m"]
    (if program.exports.isEmpty then [] else "local e = m.exports" :: program.exports.map program.exportText)

def instantiateLines (program : Program) : List String :=
  let step (name : String) (args : List String) : String := apply program.namePrefix name args
  program.routineLines "instantiate" ["imports"] <|
    ["local m = " ++ braced (" exports = " ++ braced "" ++ " "),
      step "init_functions" ["m", "imports"], step "init_memories" ["m", "imports"],
      step "init_tables" ["m", "imports"], step "init_refs" ["m"],
      step "init_globals" ["m", "imports"], step "check_segments" ["m"], step "init_segments" ["m"], step "init_exports" ["m"]]
    ++ program.startText ++ ["return m"]

def typeText (entity : Extern) : String :=
  if entity.type.isEmpty then "" else ", type = " ++ text entity.type

def importText (entity : Extern) : String := braced (" module = " ++ text entity.module ++ ", name = " ++ text entity.name
    ++ ", kind = " ++ text (Bytes.ofString entity.kind.text) ++ typeText entity ++ " ") ++ ","

def exportEntryText (entity : Extern) : String :=
  braced (" name = " ++ text entity.name ++ ", kind = " ++ text (Bytes.ofString entity.kind.text) ++ typeText entity
    ++ (if entity.mutable then ", mutable = true" else "") ++ " ") ++ ","

def descriptionLines (program : Program) : List String := [helper program.namePrefix "module" ++ " = \x7b"]
    ++ indent (["name = " ++ text program.name ++ ",", "imports = \x7b"]
        ++ indent (program.importList.map importText) ++ ["\x7d,", "exports = \x7b"] ++ indent (program.exportList.map exportEntryText)
        ++ ["\x7d,", "instantiate = " ++ helper program.namePrefix "instantiate" ++ ","])
    ++ ["\x7d", "", "return " ++ helper program.namePrefix "module"]

def bodyText (program : Program) : String :=
  let join (lines : List String) : String := String.join (lines.map (· ++ "\n"))
  Prelude.publish program.namePrefix ++ join program.setup ++ String.join (program.functions.map (·.text program.toNames))
    ++ join (program.exportLines ++ program.instantiateLines ++ program.descriptionLines)

def text (program : Program) : String := Prelude.text ++ program.bodyText

end Program

end WasmLua.Target
