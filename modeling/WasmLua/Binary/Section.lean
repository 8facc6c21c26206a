import WasmLua.Binary.Code

namespace WasmLua.Binary

open Reader
open Wasm (Instruction ValueType Signature Limits GlobalType ExternKind)

inductive ImportType where
  | func (type : UInt32)
  | table (limits : Limits)
  | memory (limits : Limits)
  | global (type : GlobalType)
deriving DecidableEq, Repr

structure ImportEntry where
  origin : Wasm.Import
  type : ImportType
deriving DecidableEq, Repr

structure LocalGroup where
  count : UInt32
  type : ValueType
deriving DecidableEq, Repr

structure RawBody where
  locals : List LocalGroup
  code : Bytes
deriving DecidableEq, Repr

structure RawGlobal where
  type : GlobalType
  init : List Instruction
deriving DecidableEq, Repr

structure Sections where
  types : Option (List Signature)
  imports : List ImportEntry
  functions : Option (List UInt32)
  tables : List Limits
  memories : List Limits
  globals : List RawGlobal
  exports : List Wasm.Export
  start : Option UInt32
  elements : List Wasm.ElementSegment
  bodies : Option (List RawBody)
  data : List Wasm.DataSegment
  customs : List (Bytes × Bytes)
deriving DecidableEq, Repr

def Sections.empty : Sections := ⟨none, [], none, [], [], [], [], none, [], none, [], []⟩

def valueType : Reader ValueType := do return .ofByte (← byte)

def signature : Reader Signature := do
  guard ((← byte) == 0x60)
  let params ← vector valueType
  let results ← vector valueType
  return ⟨params, results⟩

def limits : Reader Limits := do
  let flag ← byte
  guard (flag ≤ 1)
  let initial ← u32
  let maximum ← if flag == 1 then some <$> u32 else pure none
  return ⟨initial, maximum⟩

def tableType : Reader Limits := do
  guard ((← byte) == ValueType.funcref.toByte)
  limits

def globalType : Reader GlobalType := do
  let type ← valueType
  let mutable ← byte
  guard (mutable ≤ 1)
  return ⟨type, mutable == 1⟩

def importEntry : Reader ImportEntry := do
  let module ← name
  let field ← name
  let type ←
    match ExternKind.ofByte (← byte) with
    | .func => .func <$> u32
    | .table => .table <$> tableType
    | .memory => .memory <$> limits
    | .global => .global <$> globalType
    | .other _ => malformed
  return ⟨⟨module, field⟩, type⟩

def rawGlobal : Reader RawGlobal := do
  let type ← globalType
  let init ← constant
  return ⟨type, init⟩

def exportEntry : Reader Wasm.Export := do
  let name ← name
  let kind ← byte
  let index ← u32
  return ⟨name, .ofByte kind, index⟩

def element : Reader Wasm.ElementSegment := do
  let table ← u32
  let offset ← constant
  let init ← vector u32
  return ⟨table, offset, init.map fun function => Int64.ofNat function.toNat, false⟩

def dataEntry : Reader Wasm.DataSegment := do
  let memory ← u32
  let offset ← constant
  let init ← blob
  return ⟨memory, offset, init, false⟩

def localGroup : Reader LocalGroup := do
  let count ← u32
  let type ← valueType
  return ⟨count, type⟩

def bodyParts : Reader RawBody := do
  let locals ← vector localGroup
  let code ← rest
  match code.getLast? with
  | none => throw .emptyBody
  | some last =>
    guard (last == 0x0b)
    return ⟨locals, code.dropLast⟩

def body : Reader RawBody := do
  let content ← blob
  match bodyParts content with
  | .ok (parts, _) => return parts
  | .error fault => throw fault

def sortedExports (exports : List Wasm.Export) : Reader (List Wasm.Export) := do
  let sorted := exports.mergeSort fun a b => !Bytes.before b.name a.name
  let names := sorted.map (·.name)
  guard (!(names.zip names.tail).any fun (a, b) => a == b)
  return sorted

def payload (id : UInt8) (sections : Sections) : Reader Sections := do
  match id with
  | 0 => do
    let name ← name
    let content ← rest
    return { sections with customs := sections.customs ++ [(name, content)] }
  | 1 => do return { sections with types := some (← vector signature) }
  | 2 => do return { sections with imports := ← vector importEntry }
  | 3 => do return { sections with functions := some (← vector u32) }
  | 4 => do return { sections with tables := ← vector tableType }
  | 5 => do return { sections with memories := ← vector limits }
  | 6 => do return { sections with globals := ← vector rawGlobal }
  | 7 => do return { sections with exports := ← sortedExports (← vector exportEntry) }
  | 8 => do return { sections with start := some (← u32) }
  | 9 => do return { sections with elements := ← vector element }
  | 10 => do
    let bodies ← vector body
    let functions := sections.functions.getD []
    guard (!functions.isEmpty && functions.length == bodies.length && sections.types.isSome)
    return { sections with bodies := some bodies }
  | 11 => do return { sections with data := ← vector dataEntry }
  | _ => malformed

def nextSection (last : UInt8) (sections : Sections) : Reader (UInt8 × Sections) := do
  let id ← byte
  guard (id == 0 || last < id)
  let size ← u32
  let input ← get
  let (window, after) := input.splitAt size.toNat
  match payload id sections window with
  | .error fault => throw fault
  | .ok (sections, unread) =>
    set (unread ++ after)
    return (if id == 0 then last else id, sections)

end WasmLua.Binary
