import WasmLua.Command.Dispatch
import WasmLua.Compile.Unit
import WasmLua.Exec.SpecTest

namespace WasmLua.Command

open Bytes

structure LogEntry where
  message : String
  fields : List (String × Bytes)
deriving DecidableEq, Repr

structure Output where
  stdout : Bytes
  log : List LogEntry
  written : Files

def Output.empty : Output := ⟨[], [], []⟩

def Output.files (output : Output) (files : Files) : Files := output.written.filter fun file => files.canHold file.1

abbrev Job := EStateM Error Output

namespace Job

def ofExcept {α : Type} : Except Error α → Job α
  | .ok value => pure value
  | .error error => throw error

def print (text : Bytes) : Job Unit := modify fun output => { output with stdout := output.stdout ++ text }

def log (settings : Settings) (entry : LogEntry) : Job Unit :=
  if settings.isVerbose then modify fun output => { output with log := output.log ++ [entry] }
  else pure ()

def write (path content : Bytes) : Job Unit :=
  modify fun output => { output with written := output.written ++ [(Path.clean path, content)] }

def number (value : Nat) : Bytes := ofString (toString value)

def findModule (files : Files) (path : Bytes) : Except Error Wasm.Module :=
  let full := path ++ ofString ".wasm"
  let decode (path content : Bytes) : Except Error Wasm.Module := (Binary.decode content).mapError (.binary path)
  match files.read? path with
  | some content => decode path content
  | none =>
    match files.read? full with
    | some content => decode full content
    | none => .error (.notFound path)

def loadModule (files : Files) (settings : Settings) (path : Bytes) : Job Wasm.Module := do
  let module ← ofExcept (findModule files path)
  log settings ⟨"loaded module", [("path", path), ("functions", number module.functions.length), ("exports", number module.exports.length)]⟩
  return module

def compiledEntry (compiled : Compile.CompiledFunction) : LogEntry :=
  let stats := compiled.stats
  ⟨"compiled function", [("function", ofString stats.name), ("index", number stats.index),
    ("instructions", number stats.instructions), ("slots", number stats.maxStack)]⟩

def compileModule (settings : Settings) (module : Wasm.Module) : Job Target.Program := do
  let attempt := Compile.attempt module (some (settings.options module.name))
  attempt.functions.forM fun compiled => log settings (compiledEntry compiled)
  ofExcept (attempt.result.mapError .compile)

def compile (files : Files) (settings : Settings) (given : Given) : Job Unit := do
  match given.args with
  | [path] =>
    let module ← loadModule files settings path
    let program ← compileModule settings module
    let text := ofString program.text
    let target := (given.text? "out").getD []
    if target == [Flags.dash] then print text
    else
      let target := if target.isEmpty then Path.stem path ++ ofString ".lua" else target
      log settings ⟨"writing output", [("path", target)]⟩
      write target text
  | _ => throw .oneArgument

def statsHeader : String := "funcidx,function,in,out,local count,used locals,instruction count,max stack,max nesting," ++
    "lowered frames,flagged branches,spilled,bytes\n"

def statsLine (stats : Compile.FunctionStats) : String := String.intercalate ","
    [toString stats.index, stats.name, toString stats.params, toString stats.results,
      toString stats.locals, toString stats.usedLocals, toString stats.instructions,
      toString stats.maxStack, toString stats.maxDepth, toString stats.lowered,
      toString stats.flagged, toString stats.spilled, toString stats.bytes] ++ "\n"

def stats (files : Files) (settings : Settings) (given : Given) : Job Unit := do
  match given.args with
  | [path] =>
    let module ← loadModule files settings path
    let options := some (settings.options module.name)
    (Compile.attempt module options).functions.forM fun compiled =>
      log settings (compiledEntry compiled)
    let all ← ofExcept ((Compile.analyze module options).mapError .compile)
    print (ofString (statsHeader ++ String.join (all.map statsLine)))
  | _ => throw .oneArgument

def eventEntry (name : Bytes) : Exec.Event → LogEntry
  | .instantiated => ⟨"instantiated module", [("module", name)]⟩
  | .hostCall label args =>
    let values := List.intercalate (ofString " ") (args.map Exec.HostValue.text)
    ⟨"host call", [("module", name), ("import", label), ("args", ofString "[" ++ values ++ ofString "]")]⟩

def exportedSignature (loaded : Exec.Loaded) (name : Bytes) : Except Error Wasm.Signature := do
  let functions := loaded.exports.filter fun entity => entity.name == name && entity.kind == .func
  let signatures ← functions.mapM fun entity => (Exec.Extern.signature entity).mapError .run
  match signatures.getLast? with
  | some signature => return signature
  | none => throw (.noFunction name)

def arguments (name : Bytes) (types : List Wasm.ValueType) (args : List Bytes) : Except Error (List Exec.HostValue) := do
  if args.length ≠ types.length then throw (.argumentCount name types.length args.length)
  (types.zip args).zipIdx.mapM fun ((type, text), i) =>
    (parseArgument type text).mapError (.argument i)

def embed {α : Type} (action : Exec.Embedding Bytes α) : EStateM Error (Exec.Store Bytes) α := fun store =>
  match action store with
  | .ok value store => .ok value store
  | .error failure store => .error (.run failure) store

def callExport (loaded : Exec.Loaded) (name : Bytes) (args : List Bytes) :
    EStateM Error (Exec.Store Bytes) (List Exec.HostValue × List Wasm.ValueType) := do
  let fields ← embed (Exec.SpecTest.fields fun text printed => printed ++ text)
  let exports ← embed (loaded.instantiate [(ofString "spectest", fields), (ofString "env", fields)])
  let lift {α : Type} (value : Except Error α) : EStateM Error (Exec.Store Bytes) α :=
    match value with
    | .ok value => pure value
    | .error error => throw error
  let signature ← lift (exportedSignature loaded name)
  let args ← lift (arguments name signature.params args)
  let results ← embed (exports.call loaded name args)
  return (results, signature.results)

def keep (settings : Settings) (name : Bytes) (store : Exec.Store Bytes) : Job Unit := do
  store.events.toList.forM fun event => log settings (eventEntry name event)
  print store.world

def run (files : Files) (settings : Settings) (given : Given) : Job Unit := do
  match given.args with
  | path :: name :: args =>
    let module ← loadModule files settings path
    let program ← compileModule settings module
    let loaded ← ofExcept <|
      (Exec.Loaded.load (Path.stem path) program Exec.defaultDepth).mapError .run
    match callExport loaded name args (.empty []) with
    | .error error store =>
      keep settings (Path.stem path) store
      throw error
    | .ok (results, types) store =>
      keep settings (Path.stem path) store
      print (List.zipWith Exec.SpecTest.line types results).flatten
  | _ => throw .pathAndExport

end Job

def perform (args : List Bytes) (files : Files) (environment : Environment) : Job Unit := do
  match ← Job.ofExcept (Dispatch.task args) with
  | .inform => pure ()
  | .complete =>
    let _ ← Job.ofExcept (Configuration.load files environment .none)
  | .perform name given =>
    let settings ← Job.ofExcept (Configuration.load files environment given)
    match name with
    | .compile => Job.compile files settings given
    | .stats => Job.stats files settings given
    | .run => Job.run files settings given
    | .help => pure ()
    | .complete => pure ()

def inputs (args : List Bytes) : List Bytes :=
  match Dispatch.task args with
  | .ok (.perform _ given) =>
    Configuration.path given ::
      match given.args.head? with
      | some path => [path, path ++ ofString ".wasm"]
      | none => []
  | _ => []

end WasmLua.Command
