import WasmLua.Command.ConfigFile
import WasmLua.Command.Error
import WasmLua.Command.Files

/-!
The configuration of a command: defaults, the file that a flag names, the environment and the flags,
each layer over the one before.
-/

namespace WasmLua.Command.Configuration

def flags : List Flag := [⟨"config", none, .text⟩, ⟨"verbose", some 'v', .switch⟩, ⟨"name-prefix", some 'n', .text⟩,
    ⟨"no-debug-names", none, .switch⟩, ⟨"max-memory-pages", none, .word⟩]

def ofFlags (given : Given) : Settings where
  namePrefix := (given.text? "name-prefix").getD []
  debugNames := (given.switch? "no-debug-names").map (!·)
  maxPages := (given.word? "max-memory-pages").getD 0
  maxElements := 0
  verbose := given.switch? "verbose"

def path (given : Given) : Bytes := (given.text? "config").getD []

def ofFile (files : Files) (path : Bytes) : Except Error Settings :=
  if path.isEmpty then .ok .unset
  else match files.read? path with
    | none => .error .missingFile
    | some content =>
      match ConfigFile.settings? content with
      | some settings => .ok settings
      | none => .error .invalidFile

def load (files : Files) (environment : Environment) (given : Given) : Except Error Settings := do
  let file ← ofFile files (path given)
  let named ← environment.settings.mapError .environment
  return ((Settings.default.apply file).apply named).apply (ofFlags given)

end WasmLua.Command.Configuration
