import WasmLua.Compile.Body
import WasmLua.Compile.Constant
import WasmLua.Compile.Options
import WasmLua.Target.Printer

namespace WasmLua.Compile

open Target (Callee Program Names)

structure FunctionStats where
  index : Nat
  name : String
  params : Nat
  results : Nat
  locals : Nat
  usedLocals : Nat
  instructions : Nat
  maxStack : Nat
  maxDepth : Nat
  lowered : Nat
  flagged : Nat
  spilled : Bool
  bytes : Nat
deriving DecidableEq, Repr

def maxVariables : Nat := 150

structure CompiledFunction where
  function : Target.Function
  stats : FunctionStats

structure Plan where
  module : Wasm.Module
  settings : Settings
  names : Names
  refs : List Nat

def Comparison.textual (naming : Target.Naming) : Comparison where
  isSlot operand slot := naming.operand operand == naming.slot slot
  isLocal operand index := naming.operand operand == naming.variableText index

namespace Plan

def checkExports (module : Wasm.Module) : List Wasm.Export → List Bool → Except Error (List Bool)
  | [], cells => .ok cells
  | item :: rest, cells =>
    match item.kind with
    | .global =>
      if item.index.toNat < module.globals.length then
        checkExports module rest (cells.set item.index.toNat true)
      else .error (.exportedGlobal item.name item.index)
    | .func =>
      if item.index.toNat < module.functions.length then checkExports module rest cells
      else .error (.exportedFunction item.name item.index)
    | _ => checkExports module rest cells

def elementRefs (functions : Nat) : Nat → List Wasm.ElementSegment → Except Error (List Nat)
  | _, [] => .ok []
  | segment, element :: rest =>
    match element.init.find? fun index => (functions : Int) ≤ index.toInt with
    | some index => .error (.elementFunction segment index)
    | none => do
      let more ← elementRefs functions (segment + 1) rest
      return (element.init.filter fun index => 0 ≤ index.toInt).map (·.toInt.toNat) ++ more

def bodyRefs (body : List Wasm.Instruction) : List Nat := body.filterMap fun instruction =>
    match instruction.op? with
    | some .refFunc => some instruction.index.toNat
    | _ => none

def listed (bound : Nat) (numbers : List Nat) : List Nat :=
  let marks := numbers.foldl (fun marks number => marks.setIfInBounds number true) (Array.replicate bound false)
  (List.range bound).filter fun number => marks.getD number false

def make (module : Wasm.Module) (settings : Settings) : Except Error Plan := do
  let cells ← checkExports module module.exports (module.globals.map (·.origin.isSome))
  let refs ← elementRefs module.functions.length 0 module.elements
  let mentioned := refs ++ module.globals.flatMap (bodyRefs ·.init) ++ module.functions.flatMap (bodyRefs ·.body)
  return {
    module := module
    settings := settings
    names := ⟨settings.namePrefix, functionNames module.functions settings.debugNames, cells⟩
    refs := listed module.functions.length mentioned }

def bodyError (index : Nat) : Nat × BodyFault → Error
  | (offset, .stack fault) => .stack index offset fault
  | (offset, .unsupported op) => .unsupported index offset op
  | (_, .missingSignature) => .missingSignature

def variableCount (signature : Wasm.Signature) (function : Wasm.Function) (body : CompiledBody) : Nat :=
  signature.params.length + function.locals.length + body.slots + if body.usesFlag then 1 else 0

def finish (plan : Plan) (index : Nat) (name : String) (signature : Wasm.Signature)
    (function : Wasm.Function) (spilled : Bool) (body : CompiledBody) : CompiledFunction :=
  let code : Target.Function := {
    index := index
    name := name
    params := signature.params.length
    locals := function.locals
    slots := body.slots
    usesFlag := body.usesFlag
    spilled := spilled
    body := body.code }
  { function := code
    stats := {
      index := index
      name := code.name
      params := signature.params.length
      results := signature.results.length
      locals := function.locals.length
      usedLocals := body.usedLocals
      instructions := function.body.length
      maxStack := body.slots
      maxDepth := body.maxDepth
      lowered := body.lowered
      flagged := body.flagged
      spilled := code.spilled
      bytes := (code.text plan.names).utf8ByteSize } }

def bodyAs (plan : Plan) (index : Nat) (signature : Wasm.Signature) (function : Wasm.Function)
    (spilled : Bool) : Except Error CompiledBody :=
  (compileBody plan.module (plan.module.scopeWith (signature.params ++ function.locals))
    signature.results function.body (.textual ⟨plan.names, signature.params.length, spilled⟩)).mapError (bodyError index)

def compileFunction (plan : Plan) (index : Nat) (function : Wasm.Function) : Except Error CompiledFunction := do
  match plan.module.type? function.type with
  | none => throw .missingSignature
  | some signature =>
    let name := plan.names.functionNames.getD index ""
    let body ← plan.bodyAs index signature function false
    if variableCount signature function body ≤ maxVariables then
      return plan.finish index name signature function false body
    else
      let body ← plan.bodyAs index signature function true
      return plan.finish index name signature function true body

def compileFrom (plan : Plan) : Nat → List Wasm.Function → List CompiledFunction × Option Error
  | _, [] => ([], none)
  | index, function :: rest =>
    if function.origin.isSome then plan.compileFrom (index + 1) rest
    else
      match plan.compileFunction index function with
      | .error error => ([], some error)
      | .ok compiled =>
        let (more, failure) := plan.compileFrom (index + 1) rest
        (compiled :: more, failure)

def callee (plan : Plan) (index : Nat) : Callee :=
  match plan.module.functions[index]? with
  | some function => if function.origin.isSome then .imported index else .defined index
  | none => .defined index

def signatureKey (plan : Plan) (index : Nat) : Except Error Bytes :=
  match plan.module.signature? index with
  | some signature => .ok signature.key
  | none => .error .missingSignature

def ref (plan : Plan) (index : Nat) : Except Error Target.RefInit := do
  return ⟨index, ← plan.signatureKey index, plan.callee index⟩

def provision (origin : Option Wasm.Import) (limits : Wasm.Limits) (cap : UInt32) : Target.Provision :=
  match origin with
  | some origin => .imported origin limits
  | none => .created limits.initial ((limits.maximum.map (min · cap)).getD cap)

def constant (plan : Plan) (owner : ConstantOwner) (body : List Wasm.Instruction)
    (wanted : Wasm.ValueType) : Except Error Target.Constant :=
  (Constant.ofBody plan.module.globals body wanted).mapError (.constant owner)

def globals (plan : Plan) : Nat → List Wasm.Global → Except Error (List Target.GlobalInit)
  | _, [] => .ok []
  | index, global :: rest => do
    let init ←
      match global.origin with
      | some origin => pure (Target.GlobalInit.imported origin)
      | none => .created <$> plan.constant (.global index) global.init global.type.type
    return init :: (← plan.globals (index + 1) rest)

def elements (plan : Plan) : Nat → List Wasm.ElementSegment → Except Error (List Target.ElementInit)
  | _, [] => .ok []
  | index, element :: rest =>
    if element.passive then plan.elements (index + 1) rest
    else if plan.module.tables.length ≤ element.table.toNat then
      .error (.elementTable index element.table)
    else do
      let offset ← plan.constant (.element index) element.offset .i32
      let functions := element.init.map fun function =>
        if function.toInt < 0 then none else some function.toInt.toNat
      return ⟨element.table, offset, functions⟩ :: (← plan.elements (index + 1) rest)

def data (plan : Plan) : Nat → List Wasm.DataSegment → Except Error (List Target.DataInit)
  | _, [] => .ok []
  | index, data :: rest =>
    if data.passive then plan.data (index + 1) rest
    else if plan.module.memories.length ≤ data.memory.toNat then
      .error (.dataMemory index data.memory)
    else do
      let offset ← plan.constant (.data index) data.offset .i32
      return ⟨data.memory, offset, data.init⟩ :: (← plan.data (index + 1) rest)

def exportValue (plan : Plan) (item : Wasm.Export) : Target.ExportValue :=
  match item.kind with
  | .func => .function (plan.callee item.index.toNat)
  | .table => .table item.index
  | .memory => .memory item.index
  | _ => .global item.index

def externType (plan : Plan) (kind : Wasm.ExternKind) (index : UInt32) : Except Error (Bytes × Bool) :=
  match kind with
  | .func => do return (← plan.signatureKey index.toNat, false)
  | .table => return ([(elementType plan.module index).key], false)
  | .global =>
    match plan.module.globals[index.toNat]? with
    | some global => return ([global.type.type.key], global.type.mutable)
    | none => return ([], false)
  | _ => return ([], false)

def importsOf (plan : Plan) (kind : Wasm.ExternKind) : Nat → List (Option Wasm.Import) → Except Error (List Target.Extern)
  | _, [] => .ok []
  | index, none :: rest => plan.importsOf kind (index + 1) rest
  | index, some origin :: rest => do
    let (type, _) ← plan.externType kind (UInt32.ofNat index)
    return ⟨origin.module, origin.field, kind, type, false⟩ :: (← plan.importsOf kind (index + 1) rest)

def importList (plan : Plan) : Except Error (List Target.Extern) := do
  let module := plan.module
  return (← plan.importsOf .func 0 (module.functions.map (·.origin)))
    ++ (← plan.importsOf .table 0 (module.tables.map (·.origin)))
    ++ (← plan.importsOf .memory 0 (module.memories.map (·.origin)))
    ++ (← plan.importsOf .global 0 (module.globals.map (·.origin)))

def exportList (plan : Plan) : Except Error (List Target.Extern) := plan.module.exports.mapM fun item => do
    let (type, mutable) ← plan.externType item.kind item.index
    return ⟨[], item.name, item.kind, type, mutable⟩

def start (plan : Plan) : Except Error (Option Callee) :=
  match plan.module.start with
  | none => .ok none
  | some index =>
    if index.toNat < plan.module.functions.length then .ok (some (plan.callee index.toNat))
    else .error (.startFunction index)

def assemble (plan : Plan) (functions : List CompiledFunction) (refs : List Target.RefInit)
    (globals : List Target.GlobalInit) (elements : List Target.ElementInit)
    (data : List Target.DataInit) (exports : List (Bytes × Target.ExportValue))
    (importList exportList : List Target.Extern) (start : Option Callee) : Program where
  toNames := plan.names
  name := plan.module.name
  functionImports := (plan.module.functions.mapIdx fun i f => (i, f.origin)).filterMap fun (i, origin) => origin.map (i, ·)
  memories := plan.module.memories.map fun m => provision m.origin m.limits plan.settings.maxPages
  tables := plan.module.tables.map fun t => provision t.origin t.limits plan.settings.maxElements
  refs := refs
  globals := globals
  elements := elements
  data := data
  functions := functions.map (·.function)
  exports := exports
  start := start
  importList := importList
  exportList := exportList

def program (plan : Plan) (functions : List CompiledFunction) : Except Error Program := do
  let module := plan.module
  let refs ← plan.refs.mapM plan.ref
  let globals ← plan.globals 0 module.globals
  let elements ← plan.elements 0 module.elements
  let data ← plan.data 0 module.data
  let importList ← plan.importList
  let exportList ← plan.exportList
  let start ← plan.start
  let exports := module.exports.map fun item => (item.name, plan.exportValue item)
  return plan.assemble functions refs globals elements data exports importList exportList start

end Plan

structure Attempt where
  functions : List CompiledFunction
  result : Except Error Program

def settingsOf (options : Option Options) : Except Error Settings :=
  match options with
  | none => .ok .default
  | some options =>
    match options.resolve? with
    | some settings => .ok settings
    | none => .error (.namePrefix options.namePrefix)

def attempt (module : Wasm.Module) (options : Option Options) : Attempt :=
  match settingsOf options >>= Plan.make module with
  | .error error => ⟨[], .error error⟩
  | .ok plan =>
    let (functions, failure) := plan.compileFrom 0 module.functions
    match failure with
    | some error => ⟨functions, .error error⟩
    | none => ⟨functions, plan.program functions⟩

def compile (module : Wasm.Module) (options : Option Options) : Except Error Program := (attempt module options).result

def analyze (module : Wasm.Module) (options : Option Options) : Except Error (List FunctionStats) :=
  match settingsOf options >>= Plan.make module with
  | .error error => .error error
  | .ok plan =>
    match plan.compileFrom 0 module.functions with
    | (_, some error) => .error error
    | (functions, none) => .ok (functions.map (·.stats))

end WasmLua.Compile
