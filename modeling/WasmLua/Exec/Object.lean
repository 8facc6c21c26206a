import WasmLua.Exec.Loaded

namespace WasmLua.Exec

variable {ω : Type}

structure Cell where
  cell : Value
  type : Wasm.GlobalType

def newMemory (pages maximum : UInt32) : Embedding ω Value := modifyGet fun store =>
    store.allocate ⟨.null, .memory (.empty (.ofInt pages.toNat) (.ofInt maximum.toNat))⟩

def newTable (size maximum : UInt32) : Embedding ω Value := modifyGet fun store =>
    store.allocate ⟨.null, .table (.empty (.ofInt size.toNat) (.ofInt maximum.toNat))⟩

def convert (type : Wasm.ValueType) (value : HostValue) : Embedding ω Value := do
  let made ← Embedding.ofExcept ((value.toValue type).mapError .value)
  modifyGet fun store => store.make made

def newGlobal (type : Wasm.GlobalType) (value : HostValue) : Embedding ω Cell := do
  let value ← convert type.type value
  let cell ← modifyGet fun store => store.allocate ⟨value, .cell⟩
  return ⟨cell, type⟩

namespace Cell

def get (cell : Cell) : Embedding ω HostValue := do
  let store ← EStateM.get
  let value := ((store.object? cell.cell).map Object.value).getD .null
  Embedding.ofExcept ((HostValue.ofValue store.pair? cell.type.type value).mapError .value)

def set (cell : Cell) (value : HostValue) : Embedding ω Unit := do
  if !cell.type.mutable then throw .immutable
  let value ← convert cell.type.type value
  modify fun store => store.setSlot cell.cell value

end Cell

namespace Object

def measure (object : Object) (name : String) : Number :=
  match object.body, name with
  | .memory memory, "pages" => memory.pages
  | .memory memory, "size" => memory.size
  | .memory memory, "max" => memory.maximum
  | .table table, "size" => table.size
  | .table table, "max" => table.maximum
  | .record record, name =>
    match record.field name with
    | .number value => value
    | _ => .ofInt 0
  | _, _ => .ofInt 0

end Object

namespace Store

def measure (store : Store ω) (value : Value) (name : String) : Number :=
  match store.object? value with
  | some object => object.measure name
  | none => .ofInt 0

def contents (store : Store ω) (value : Value) (name : String) : Except Failure Value :=
  match store.record? value with
  | some record =>
    match record.field name with
    | .object address => .ok (.object address)
    | _ => .error .noContents
  | none => .error .noContents

def byteAt (store : Store ω) (memory : Value) (address : Nat) : Except Failure UInt8 :=
  match store.memory? memory with
  | some content => .ok (content.byte (.ofInt address)).toInt64.toUInt64.toUInt8
  | none => do
    match ((store.record? (← store.contents memory "data")).getD .empty).item address with
    | .number value => return value.toInt64.toUInt64.toUInt8
    | _ => return 0

def writeBytes (store : Store ω) (memory : Value) (address : Nat) (bytes : Bytes) : Except Failure (Store ω) :=
  match store.memory? memory with
  | some _ => .ok (store.modifyMemory memory (Memory.writeFrom (.ofInt address) 0 bytes))
  | none => do
    let data ← store.contents memory "data"
    return store.modifyObject data fun
      | ⟨slot, .record record⟩ =>
        ⟨slot, .record { record with
          items := (bytes.zipIdx).foldl (fun items (byte, i) =>
              items.insert (.ofInt (address + i)) (.number (.ofInt byte.toNat))) record.items }⟩
      | object => object

def elementAt (store : Store ω) (table : Value) (index : Nat) : Except Failure Value :=
  match store.table? table with
  | some content => .ok (content.element (.ofInt index))
  | none => do
    return ((store.record? (← store.contents table "elems")).getD .empty).item index

end Store

def trapFailure (trap : Trap) : Failure := .trap (Bytes.ofString trap.text)

namespace Memory

def sizes (memory : Value) : Embedding ω (UInt32 × UInt32 × UInt64) := do
  let store ← get
  return ((store.measure memory "pages").toUInt32, (store.measure memory "max").toUInt32, (store.measure memory "size").toUInt64)

def bound (memory : Value) (offset : UInt32) (length : Nat) : Embedding ω Unit := do
  let (_, _, size) ← sizes memory
  if size.toNat < offset.toNat + length then throw (trapFailure .outOfBoundsMemory)

def readBytes (memory : Value) (offset : UInt32) (length : Nat) : Embedding ω Bytes := do
  bound memory offset length
  let store ← get
  (List.range length).mapM fun i =>
    Embedding.ofExcept (store.byteAt memory (offset.toNat + i))

def writeBytes (memory : Value) (offset : UInt32) (bytes : Bytes) : Embedding ω Unit := do
  bound memory offset bytes.length
  set (← Embedding.ofExcept ((← get).writeBytes memory offset.toNat bytes))

def readWord (memory : Value) (offset : UInt32) : Embedding ω UInt32 := do
  let bytes ← readBytes memory offset 4
  return bytes.foldr (fun byte word => word * 256 + byte.toUInt32) 0

end Memory

namespace Table

def length (table : Value) : Embedding ω UInt32 := do
  return ((← EStateM.get).measure table "size").toUInt32

def reference (table : Value) (index : UInt32) : Embedding ω HostValue := do
  if (← length table) ≤ index then throw (trapFailure .outOfBoundsTable)
  HostValue.ofReference <$> Embedding.ofExcept ((← EStateM.get).elementAt table index.toNat)

def signature (table : Value) (index : UInt32) : Embedding ω Bytes := do
  match ← reference table index with
  | .held (.ref _ _ key _) => return key
  | .held (.pair _ _ _) => return []
  | .held (.object address) =>
    return (((← EStateM.get).record? (.object address)).getD .empty).field "sig" |>.asText
  | _ => throw (trapFailure .uninitializedElement)

end Table

end WasmLua.Exec
