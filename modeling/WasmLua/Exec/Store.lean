import WasmLua.Exec.HostError
import WasmLua.Exec.HostValue
import WasmLua.Exec.Literal
import WasmLua.Exec.Table

/-!
The store: the objects that instances share, the instances, the functions of the embedder and the
embedder's own state.
-/

namespace WasmLua.Exec

structure Record where
  fields : List (Bytes × Value)
  items : Std.HashMap Number Value
  length : Nat

namespace Record

def empty : Record := ⟨[], ∅, 0⟩

def field (record : Record) (name : String) : Value := (record.fields.lookup (Bytes.ofString name)).getD .null

def item (record : Record) (index : Nat) : Value := record.items.getD (.ofInt index) .null

end Record

inductive Body where
  | cell
  | memory (content : Memory)
  | table (content : Table)
  | record (content : Record)

structure Object where
  value : Value
  body : Body

instance : Inhabited Object := ⟨⟨.null, .cell⟩⟩

structure Instance where
  functions : Array Value
  refs : Array Value
  memories : Array Value
  tables : Array Value
  globals : Array Value
  exports : List (Bytes × Value)

namespace Instance

def empty (functions : Nat) : Instance := ⟨Array.replicate functions .null, Array.replicate functions .null, #[], #[], #[], []⟩

end Instance

instance : Inhabited Instance := ⟨.empty 0⟩

abbrev HostAction (ω : Type) := List HostValue → ω → Except HostFailure (List HostValue) × ω

structure HostFunction (ω : Type) where
  label : Bytes
  signature : Wasm.Signature
  run : HostAction ω

inductive Script where
  | returning (results : Entries)
  | raising (message : Bytes)

inductive Event where
  | instantiated
  | hostCall (label : Bytes) (args : List HostValue)
deriving DecidableEq, Repr

structure Store (ω : Type) where
  objects : Array Object
  instances : Array Instance
  hosts : Array (HostFunction ω)
  scripts : Array Script
  world : ω
  events : Array Event
  pairs : Nat

namespace Store

variable {ω : Type}

def empty (world : ω) : Store ω := ⟨#[], #[], #[], #[], world, #[], 1⟩

def allocate (store : Store ω) (object : Object) : Value × Store ω :=
  (.object store.objects.size, { store with objects := store.objects.push object })

def make (store : Store ω) : Made → Value × Store ω
  | .held value => (value, store)
  | .fresh low high => (.pair store.pairs low high, { store with pairs := store.pairs + 1 })

def object? (store : Store ω) : Value → Option Object
  | .object address => store.objects[address]?
  | _ => none

def memory? (store : Store ω) (value : Value) : Option Memory :=
  match store.object? value with
  | some ⟨_, .memory memory⟩ => some memory
  | _ => none

def table? (store : Store ω) (value : Value) : Option Table :=
  match store.object? value with
  | some ⟨_, .table table⟩ => some table
  | _ => none

def record? (store : Store ω) (value : Value) : Option Record :=
  match store.object? value with
  | some ⟨_, .record record⟩ => some record
  | _ => none

def modifyObject (store : Store ω) (value : Value) (change : Object → Object) : Store ω :=
  match value with
  | .object address => { store with objects := store.objects.modify address change }
  | _ => store

def modifyMemory (store : Store ω) (value : Value) (change : Memory → Memory) : Store ω := store.modifyObject value fun
    | ⟨slot, .memory memory⟩ => ⟨slot, .memory (change memory)⟩
    | object => object

def setTable (store : Store ω) (value : Value) (table : Table) : Store ω :=
  store.modifyObject value fun object => { object with body := .table table }

def setSlot (store : Store ω) (value slot : Value) : Store ω :=
  store.modifyObject value fun object => { object with value := slot }

def pair? (store : Store ω) (value : Value) : Option (Pair Number) :=
  match value with
  | .pair _ (.number low) (.number high) => some ⟨low, high⟩
  | value => do
    match (← store.record? value).item 1, (← store.record? value).item 2 with
    | .number low, .number high => some ⟨low, high⟩
    | _, _ => none

structure Entered where
  slot : Value
  record : Record
  next : Nat

def Entered.empty : Entered := ⟨.null, .empty, 1⟩

def Entered.add (entered : Entered) (key : Option Bytes) (value : Value) : Entered :=
  match key with
  | some name =>
    if value = .null then entered
    else if name = Bytes.ofString "value" then { entered with slot := value }
    else
      { entered with
        record := { entered.record with fields := entered.record.fields ++ [(name, value)] } }
  | none =>
    let entered' := { entered with next := entered.next + 1 }
    if value = .null then entered'
    else
      { entered' with
        record := { entered.record with
          items := entered.record.items.insert (.ofInt entered.next) value
          length := entered.next } }

end Store

mutual

def Literal.enter {ω : Type} : Literal → Store ω → Value × Store ω
  | .null, store => (.null, store)
  | .bool value, store => (.bool value, store)
  | .number value, store => (.number value, store)
  | .text value, store => (.text value, store)
  | .table entries, store =>
    let (entered, store) := Entries.enter entries .empty store
    store.allocate ⟨entered.slot, .record entered.record⟩
  | .returning results, store =>
    (.function (.scripted store.scripts.size), { store with scripts := store.scripts.push (.returning results) })
  | .raising message, store =>
    (.function (.scripted store.scripts.size), { store with scripts := store.scripts.push (.raising message) })

def Entries.enter {ω : Type} : Entries → Store.Entered → Store ω → Store.Entered × Store ω
  | .none, entered, store => (entered, store)
  | .entry key value rest, entered, store =>
    let (value, store) := Literal.enter value store
    Entries.enter rest (entered.add key value) store

end

def Entries.values {ω : Type} : Entries → Store ω → List Value × Store ω
  | .none, store => ([], store)
  | .entry _ value rest, store =>
    let (value, store) := value.enter store
    let (values, store) := rest.values store
    (value :: values, store)

end WasmLua.Exec
