import WasmLua.Compile.Names

namespace WasmLua.Compile

structure Options where
  namePrefix : Bytes
  debugNames : Bool
  maxPages : UInt32
  maxElements : UInt32
deriving DecidableEq, Repr

structure Settings where
  namePrefix : String
  debugNames : Bool
  maxPages : UInt32
  maxElements : UInt32
deriving DecidableEq, Repr

def Settings.default : Settings := ⟨"w2l", false, UInt32.ofNat Wasm.maxPages, 10000000⟩

def Options.resolve? (options : Options) : Option Settings :=
  if options.namePrefix.isEmpty || isIdentifier options.namePrefix then
    some {
      namePrefix :=
        if options.namePrefix.isEmpty then Settings.default.namePrefix
        else options.namePrefix.toText
      debugNames := options.debugNames
      maxPages :=
        if options.maxPages != 0 && options.maxPages < Settings.default.maxPages then options.maxPages
        else Settings.default.maxPages
      maxElements :=
        if options.maxElements != 0 then options.maxElements else Settings.default.maxElements }
  else none

end WasmLua.Compile
