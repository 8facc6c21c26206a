import WasmLua.Text.Bytes

namespace WasmLua.Yaml

inductive Style where
  | plain
  | quoted
deriving DecidableEq, Repr

inductive Token where
  | streamEnd
  | documentStart
  | documentEnd
  | version (major minor : Nat)
  | tagHandle (handle start : Bytes)
  | blockSequenceStart
  | blockMappingStart
  | blockEnd
  | flowSequenceStart
  | flowSequenceEnd
  | flowMappingStart
  | flowMappingEnd
  | blockEntry
  | flowEntry
  | key
  | value
  | reference (name : String)
  | anchor (name : String)
  | tag (handle suffix : Bytes)
  | scalar (style : Style) (text : String)
deriving DecidableEq, Repr

structure Tokens where
  all : Array Token
  complete : Bool

namespace Tokens

def get? (tokens : Tokens) (place : Nat) : Option Token :=
  if tokens.complete || place + 2 < tokens.all.size then
    some ((tokens.all[place]?).getD .streamEnd)
  else none

end Tokens

end WasmLua.Yaml
