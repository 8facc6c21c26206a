import WasmLua.Binary.Decode
import WasmLua.Command.Argument
import WasmLua.Command.Environment
import WasmLua.Command.Flags
import WasmLua.Compile.Error

namespace WasmLua.Command

inductive Error where
  | flag (error : FlagError)
  | unknownCommand (name : Bytes) (similar : List String)
  | missingFile
  | invalidFile
  | environment (error : EnvironmentError)
  | tooFewArguments (want found : Nat)
  | oneArgument
  | pathAndExport
  | notFound (path : Bytes)
  | binary (path : Bytes) (error : Binary.Error)
  | compile (error : Compile.Error)
  | run (failure : Exec.Failure)
  | noFunction (name : Bytes)
  | argumentCount (name : Bytes) (want found : Nat)
  | argument (index : Nat) (error : ArgumentError)

namespace Error

def suggestion (similar : List String) : String :=
  if similar.isEmpty then ""
  else "\n\nDid you mean this?\n" ++ String.join (similar.map fun name => "\t" ++ name ++ "\n")

def message : Error → Option Bytes
  | .flag error => some error.message
  | .unknownCommand name similar =>
    text ("unknown command " ++ Quoted.bytes name ++ " for \"wasm2lua\"" ++ suggestion similar)
  | .missingFile => none
  | .invalidFile => none
  | .environment _ => none
  | .tooFewArguments want found =>
    text s!"requires at least {want} arg(s), only received {found}"
  | .oneArgument => text "expected exactly one argument"
  | .pathAndExport => text "expected a module path and an export name"
  | .notFound path => some (path ++ Bytes.ofString ": module not found")
  | .binary path error => some (path ++ Bytes.ofString (": " ++ error.message))
  | .compile error => text error.message
  | .run failure => failure.message
  | .noFunction name => text ("module does not export a function named " ++ Quoted.bytes name)
  | .argumentCount name want found =>
    some (name ++ Bytes.ofString s!" expects {want} arguments, got {found}")
  | .argument index error => text (s!"argument {index}: " ++ error.message)
where
  text (value : String) : Option Bytes := some (Bytes.ofString value)

end Error

end WasmLua.Command
