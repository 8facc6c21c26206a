import WasmLua.Exec.Object

namespace WasmLua.Exec

variable {ω : Type}

structure Exports where
  values : List (Bytes × Value)

inductive Entity (ω : Type) where
  | host (signature : Wasm.Signature) (run : HostAction ω)
  | value (value : Value)
  | unsupported (type : String)

abbrev Supply (ω : Type) := List (Bytes × List (Bytes × Entity ω))

def Entity.enter (module field : Bytes) : Entity ω → Embedding ω Value
  | .host signature run =>
    modifyGet fun store =>
      (.function (.host store.hosts.size), { store with
          hosts := store.hosts.push ⟨module ++ Bytes.ofString "." ++ field, signature, run⟩ })
  | .value found => pure found
  | .unsupported type => throw (.unsupportedImport module field type)

def Supply.enter (supply : Supply ω) : Embedding ω Imports := supply.mapM fun (module, fields) => do
    let fields ← fields.mapM fun (field, entity) => do
      return (field, ← entity.enter module field)
    return (module, fields)

namespace Loaded

def code (loaded : Loaded) : Code :=
  match loaded.source with
  | .program _ code => code
  | .scripted _ => .empty

def unplaced (message : Bytes) : Raised := .text (Bytes.ofString " " ++ message)

def callValue (loaded : Loaded) (value : Value) (args : List Value) : Execution ω (List Value) :=
  match value with
  | .function (.host id) => Code.callHost unplaced id args
  | .function call => loaded.code.call loaded.depth call args
  | _ => throw .operand

def scriptedExports (store : Store ω) (value : Value) : Exports :=
  match store.object? value with
  | some ⟨slot, .record record⟩ => ⟨Link.setField record.fields (Bytes.ofString "value") slot⟩
  | _ => ⟨[]⟩

def instantiate (loaded : Loaded) (supply : Supply ω) : Embedding ω Exports := do
  let imports ← supply.enter
  let exports : Exports ←
    match loaded.source with
    | .program program code => do
      let owner ← Embedding.run (Link.instantiate program code loaded.depth imports)
      pure ⟨owner.exports⟩
    | .scripted function => do
      let results ← Embedding.run (loaded.callValue function [])
      let store ← get
      match store.record? (results.head?.getD .null) with
      | some record => pure (scriptedExports store (record.field "exports"))
      | none => throw .noInstance
  modify fun store => { store with events := store.events.push .instantiated }
  return exports

end Loaded

namespace Exports

def value (exports : Exports) (name : Bytes) : Value := (exports.values.lookup name).getD .null

def find (exports : Exports) (loaded : Loaded) (name : Bytes) (kind : Wasm.ExternKind) : Except Failure (Target.Extern × Value) :=
  match loaded.exports.find? (·.name == name) with
  | none => .error (.exportNotFound loaded.name name)
  | some entity =>
    if entity.kind = kind then .ok (entity, exports.value name)
    else .error (.kindMismatch loaded.name name kind entity.kind)

def arguments (types : List Wasm.ValueType) (args : List HostValue) : Embedding ω (List Value) :=
  (types.zip args).zipIdx.mapM fun ((type, value), i) => do
    let made ← Embedding.ofExcept ((value.toValue type).mapError (.argument i))
    modifyGet fun store => store.make made

def results (store : Store ω) (types : List Wasm.ValueType) (values : List Value) : Except Failure (List HostValue) :=
  types.zipIdx.mapM fun (type, i) =>
    (HostValue.ofValue store.pair? type (values.getD i .null)).mapError (.result i)

def call (exports : Exports) (loaded : Loaded) (name : Bytes) (args : List HostValue) : Embedding ω (List HostValue) := do
  let (entity, function) ← Embedding.ofExcept (exports.find loaded name .func)
  let signature ← Embedding.ofExcept (Extern.signature entity)
  if args.length ≠ signature.params.length then
    throw (.argumentCount name signature.params.length args.length)
  let args ← arguments signature.params args
  let values ← Embedding.run (loaded.callValue function args)
  Embedding.ofExcept (results (← get) signature.results values)

def global (exports : Exports) (loaded : Loaded) (name : Bytes) : Except Failure Cell := do
  let (entity, value) ← exports.find loaded name .global
  let type ← Extern.valueType entity
  match value with
  | .object address => return ⟨.object address, ⟨type, entity.mutable⟩⟩
  | _ => throw (.notCell name)

def memory (exports : Exports) (loaded : Loaded) (name : Bytes) : Except Failure Value := do
  match ← exports.find loaded name .memory with
  | (_, .object address) => return .object address
  | _ => throw (.noMemory name)

def table (exports : Exports) (loaded : Loaded) (name : Bytes) : Except Failure Value := do
  match ← exports.find loaded name .table with
  | (_, .object address) => return .object address
  | _ => throw (.noTable name)

end Exports

end WasmLua.Exec
