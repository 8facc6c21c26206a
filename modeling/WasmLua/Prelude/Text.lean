import WasmLua.Prelude.Conversion
import WasmLua.Prelude.Float
import WasmLua.Prelude.I32
import WasmLua.Prelude.I64
import WasmLua.Prelude.Linking
import WasmLua.Prelude.Memory
import WasmLua.Prelude.Table

namespace WasmLua.Prelude

def chapters : List Chapter := [linking, i32, i64, float, conversion, memory, table]

def header : String := "-- Code generated by wasm2lua. DO NOT EDIT."

def text : String :=
  String.intercalate "\n" (header :: "" :: chapters.flatMap (·.lines)) ++ "\n\n"

def routines : List String :=
  ["init_functions", "init_memories", "init_tables", "init_refs", "init_globals", "check_segments",
    "init_segments", "init_exports", "instantiate", "module"]

def reserved : List String := chapters.flatMap (·.helpers) ++ routines

def unitLocals : List String := chapters.flatMap (·.locals)

def publish (namePrefix : String) : String :=
  "for k, v in pairs(rt) do\n\t_G[\"" ++ namePrefix ++ "_\" .. k] = v\nend\n\n"

end WasmLua.Prelude
