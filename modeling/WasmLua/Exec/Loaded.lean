import WasmLua.Exec.Link
import WasmLua.Target.Registers

namespace WasmLua.Exec

abbrev Embedding (ω : Type) := EStateM Failure (Store ω)

variable {ω : Type}

namespace Embedding

def ofExcept {α : Type} : Except Failure α → Embedding ω α
  | .ok value => pure value
  | .error failure => throw failure

def run {α : Type} (action : Execution ω α) : Embedding ω α := fun store =>
  match action store with
  | .ok value store => .ok value store
  | .error raised store => .error (.ofRaised raised) store

end Embedding

namespace Extern

def signature (entity : Target.Extern) : Except Failure Wasm.Signature :=
  match Wasm.Signature.ofKey? entity.type with
  | some signature => .ok signature
  | none => .error (.malformedSignature entity.type)

def valueType (entity : Target.Extern) : Except Failure Wasm.ValueType :=
  match entity.type with
  | [key] =>
    match Wasm.ValueType.ofKey? key with
    | some type => .ok type
    | none => .error (.invalidType entity.type)
  | _ => .error (.invalidType entity.type)

end Extern

inductive Source where
  | program (program : Target.Program) (code : Code)
  | scripted (instantiate : Value)

structure Loaded where
  name : Bytes
  imports : List Target.Extern
  exports : List Target.Extern
  depth : Nat
  source : Source

def defaultDepth : Nat := 16384

namespace Value

def asText : Value → Bytes
  | .text value => value
  | .number value => HostValue.numberText value
  | _ => []

def asBool : Value → Bool
  | .null => false
  | .bool value => value
  | _ => true

end Value

namespace Loaded

def readBack (mutable : Bool) (entity : Target.Extern) : Except ExternFault Target.Extern :=
  let text := Bytes.ofString entity.kind.text
  match Wasm.ExternKind.ofText? text with
  | some kind => .ok { entity with kind, mutable }
  | none => .error (.unknownKind text)

def ofProgram (program : Target.Program) (depth : Nat) : Except Failure Loaded := do
  let imports ← (program.importList.mapM (readBack false)).mapError .imports
  let exports ← (program.exportList.mapM fun entity => readBack entity.mutable entity).mapError .exports
  return ⟨program.name, imports, exports, depth, .program program (.ofProgram program)⟩

def load (name : Bytes) (program : Target.Program) (depth : Nat) : Except Failure Loaded :=
  match program.refusal? with
  | some refusal => .error (.raised (some (refusal.message name)))
  | none => ofProgram program depth

def readExtern (store : Store ω) (position : Nat) (value : Value) : Except ExternFault Target.Extern :=
  match store.record? value with
  | none => .error (.notTable position)
  | some record =>
    let kind := (record.field "kind").asText
    match Wasm.ExternKind.ofText? kind with
    | none => .error (.unknownKind kind)
    | some kind =>
      .ok ⟨(record.field "module").asText, (record.field "name").asText, kind,
        (record.field "type").asText, (record.field "mutable").asBool⟩

def readExterns (store : Store ω) (value : Value) : Except ExternFault (List Target.Extern) :=
  match store.record? value with
  | none => .error .missing
  | some list =>
    (List.range list.length).mapM fun i => readExtern store (i + 1) (list.item (i + 1))

def ofValue (store : Store ω) (value : Value) (depth : Nat) : Except Failure Loaded := do
  match store.record? value with
  | none => throw .noDescription
  | some record =>
    let imports ← (readExterns store (record.field "imports")).mapError .imports
    let exports ← (readExterns store (record.field "exports")).mapError .exports
    let name := match record.field "name" with
      | .text name => name
      | _ => []
    return ⟨name, imports, exports, depth, .scripted (record.field "instantiate")⟩

def ofLiteral (literal : Literal) (depth : Nat) : Embedding ω Loaded := do
  let value ← modifyGet fun store => literal.enter store
  Embedding.ofExcept (ofValue (← get) value depth)

end Loaded

end WasmLua.Exec
