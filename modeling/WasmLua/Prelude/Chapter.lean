namespace WasmLua.Prelude

structure Chapter where
  lines : List String
  helpers : List String
  locals : List String

end WasmLua.Prelude
