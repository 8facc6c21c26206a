import WasmLua.Binary.Reader

namespace WasmLua.Binary

open Wasm (Module)

inductive Naming where
  | module (name : Bytes)
  | function (index : UInt32) (name : Bytes)
deriving DecidableEq, Repr

def setName (functions : List Wasm.Function) (index : Nat) (name : Bytes) : List Wasm.Function :=
  functions.modify index fun function => { function with name := name }

def Naming.apply (module : Module) : Naming → Module
  | .module name => { module with name := name }
  | .function index name =>
    { module with functions := setName module.functions index.toNat name }

def functionEntries : Nat → Bytes → List Naming × Bool
  | 0, _ => ([], true)
  | count + 1, input =>
    match (do return (← Reader.u32, ← Reader.blob) : Reader (UInt32 × Bytes)) input with
    | .error _ => ([], false)
    | .ok ((index, name), rest) =>
      let (more, complete) := functionEntries count rest
      (.function index name :: more, complete)

def subsectionNames (id : UInt8) (content : Bytes) : List Naming × Bool :=
  match id with
  | 0 =>
    match Reader.blob content with
    | .ok (name, _) => ([.module name], true)
    | .error _ => ([], false)
  | 1 =>
    match Reader.u32 content with
    | .ok (count, rest) => functionEntries count.toNat rest
    | .error _ => ([], false)
  | _ => ([], true)

def subsectionHeader : Reader (UInt8 × UInt32) := do
  let id ← Reader.byte
  let size ← Reader.u32
  return (id, size)

def namesFrom : Nat → Bytes → Option (List Naming)
  | _, [] => some []
  | 0, _ :: _ => some []
  | fuel + 1, input =>
    match subsectionHeader input with
    | .error _ => none
    | .ok ((id, size), rest) =>
      let (content, after) := rest.splitAt size.toNat
      if content.length < size.toNat then some []
      else
        let (names, complete) := subsectionNames id content
        if complete then (namesFrom fuel after).map (names ++ ·) else some names

def names (content : Bytes) : Option (List Naming) := namesFrom content.length content

def applyNames (module : Module) (content : Bytes) : Option Module :=
  (names content).map fun names => names.foldl Naming.apply module

end WasmLua.Binary
