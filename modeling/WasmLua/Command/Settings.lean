import WasmLua.Compile.Options

namespace WasmLua.Command

structure Settings where
  namePrefix : Bytes
  debugNames : Option Bool
  maxPages : UInt32
  maxElements : UInt32
  verbose : Option Bool
deriving DecidableEq, Repr

namespace Settings

def unset : Settings := ⟨[], none, 0, 0, none⟩

def default : Settings := ⟨[], some true, Compile.Settings.default.maxPages, Compile.Settings.default.maxElements, some false⟩

def apply (lower upper : Settings) : Settings where
  namePrefix := if upper.namePrefix.isEmpty then lower.namePrefix else upper.namePrefix
  debugNames := upper.debugNames.orElse fun _ => lower.debugNames
  maxPages := if upper.maxPages = 0 then lower.maxPages else upper.maxPages
  maxElements := if upper.maxElements = 0 then lower.maxElements else upper.maxElements
  verbose := upper.verbose.orElse fun _ => lower.verbose

def isVerbose (settings : Settings) : Bool := settings.verbose == some true

def options (settings : Settings) (moduleName : Bytes) : Compile.Options where
  namePrefix :=
    let name := Bytes.ofString (Compile.sanitize moduleName)
    if settings.namePrefix.isEmpty && Compile.isIdentifier name then name else settings.namePrefix
  debugNames := settings.debugNames.getD true
  maxPages := settings.maxPages
  maxElements := settings.maxElements

end Settings

end WasmLua.Command
