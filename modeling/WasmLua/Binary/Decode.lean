import WasmLua.Binary.Names
import WasmLua.Binary.Section

namespace WasmLua.Binary

open Wasm (Module)

inductive Error where
  | magic (start : Bytes)
  | textFormat
  | empty
  | malformed
  | emptyBody
  | importType (origin : Wasm.Import) (type : UInt32)
  | functionType (function : Nat) (type : UInt32)
  | sizesDiffer (functions bodies : Nat)
  | body (function : Nat)
  | nameSection
deriving DecidableEq, Repr

def Error.message : Error → String
  | .magic start => "not a WebAssembly module: bad magic " ++ Quoted.bytes start
  | .textFormat => "text format modules are not supported; assemble the module to binary first"
  | .empty => "EOF"
  | .malformed => ""
  | .emptyBody => ""
  | .importType origin type =>
    "import " ++ origin.module.toText ++ "." ++ origin.field.toText ++ s!": type index {type} out of range"
  | .functionType function type => s!"function {function}: type index {type} out of range"
  | .sizesDiffer functions bodies =>
    s!"function and code section sizes differ ({functions} != {bodies})"
  | .body function => s!"function {function}"
  | .nameSection => "name section"

def magic : Bytes := [0x00, 0x61, 0x73, 0x6d]

def startsText (byte : UInt8) : Bool := [0x28, 0x3b, 0x20, 0x09, 0x0d, 0x0a].contains byte

def sectionsFrom : Nat → UInt8 → Sections → Bytes → Except Fault Sections
  | _, _, sections, [] => .ok sections
  | 0, _, _, _ :: _ => .error .malformed
  | fuel + 1, last, sections, input => do
    let ((last, sections), rest) ← nextSection last sections input
    sectionsFrom fuel last sections rest

def sections (input : Bytes) : Except Fault Sections := do
  let (version, rest) ← Reader.littleEndian 4 input
  if version = 1 then sectionsFrom rest.length 0 .empty rest else .error .malformed

def addImports (module : Module) : List ImportEntry → Except Error Module
  | [] => .ok module
  | entry :: rest =>
    let origin := some entry.origin
    match entry.type with
    | .func type =>
      if type.toNat < module.types.length then
        addImports { module with functions := module.functions ++ [⟨[], type, origin, [], []⟩] } rest
      else .error (.importType entry.origin type)
    | .table limits =>
      addImports { module with tables := module.tables ++ [⟨origin, .funcref, limits⟩] } rest
    | .memory limits =>
      addImports { module with memories := module.memories ++ [⟨origin, limits⟩] } rest
    | .global type =>
      addImports { module with globals := module.globals ++ [⟨origin, type, []⟩] } rest

def expandLocals (groups : List LocalGroup) : List Wasm.ValueType :=
  groups.flatMap fun group => List.replicate group.count.toNat group.type

def definedFunctions (types : Nat) : Nat → List (UInt32 × RawBody) → Except Error (List Wasm.Function)
  | _, [] => .ok []
  | index, (type, body) :: rest =>
    if types ≤ type.toNat then .error (.functionType index type)
    else
      match instructions body.code with
      | .error _ => .error (.body index)
      | .ok code => do
        let more ← definedFunctions types (index + 1) rest
        return ⟨[], type, none, expandLocals body.locals, code ++ [.endBlock]⟩ :: more

def addFunctions (sections : Sections) (module : Module) : Except Error Module :=
  match sections.functions with
  | none => .ok module
  | some types =>
    let bodies := sections.bodies.getD []
    if bodies.length ≠ types.length then .error (.sizesDiffer types.length bodies.length)
    else do
      let defined ← definedFunctions module.types.length module.functions.length (types.zip bodies)
      return { module with functions := module.functions ++ defined }

def addNames (module : Module) : List (Bytes × Bytes) → Except Error Module
  | [] => .ok module
  | (name, content) :: rest =>
    if name == Bytes.ofString "name" then
      match applyNames module content with
      | some module => addNames module rest
      | none => .error .nameSection
    else addNames module rest

def assemble (sections : Sections) : Except Error Module := do
  let module ← addImports { Module.empty with types := sections.types.getD [] } sections.imports
  let module ← addFunctions sections module
  let module := { module with
    tables := module.tables ++ sections.tables.map fun limits => ⟨none, .funcref, limits⟩
    memories := module.memories ++ sections.memories.map fun limits => ⟨none, limits⟩
    globals := module.globals ++ sections.globals.map fun global => ⟨none, global.type, global.init⟩
    elements := sections.elements
    data := sections.data
    exports := sections.exports
    start := sections.start }
  addNames module sections.customs

def decode (input : Bytes) : Except Error Module :=
  match input with
  | [] => .error .empty
  | first :: _ =>
    if input.take 4 ≠ magic then
      if startsText first then .error .textFormat else .error (.magic (input.take 4))
    else
      match sections (input.drop 4) with
      | .ok sections => assemble sections
      | .error .malformed => .error .malformed
      | .error .emptyBody => .error .emptyBody

end WasmLua.Binary
