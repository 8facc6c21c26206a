import WasmLua.Command.Settings
import WasmLua.Number.Literal

namespace WasmLua.Command

abbrev Environment := List (Bytes × Bytes)

structure EnvironmentError where
  key : String
  value : Bytes
deriving DecidableEq, Repr

namespace Environment

def longName (name : String) : String := "WASM2LUA_" ++ name

def value? (environment : Environment) (name : String) : Option Bytes :=
  (environment.lookup (Bytes.ofString (longName name))).orElse fun _ =>
    environment.lookup (Bytes.ofString name)

def setting {α : Type} (environment : Environment) (name : String)
    (read : Bytes → Except LiteralError α) : Except EnvironmentError (Option α) :=
  match environment.value? name with
  | none => .ok none
  | some text =>
    match read text with
    | .ok value => .ok (some value)
    | .error _ => .error ⟨longName name, text⟩

def settings (environment : Environment) : Except EnvironmentError Settings := do
  let namePrefix ← environment.setting "NAME_PREFIX" .ok
  let debugNames ← environment.setting "DEBUG_NAMES" Literal.boolean
  let maxPages ← environment.setting "MAX_MEMORY_PAGES" (Literal.unsigned 32)
  let maxElements ← environment.setting "MAX_TABLE_ELEMENTS" (Literal.unsigned 32)
  let verbose ← environment.setting "VERBOSE" Literal.boolean
  return ⟨namePrefix.getD [], debugNames, UInt32.ofNat (maxPages.getD 0), UInt32.ofNat (maxElements.getD 0), verbose⟩

end Environment

end WasmLua.Command
