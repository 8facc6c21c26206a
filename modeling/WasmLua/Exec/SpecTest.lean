import WasmLua.Exec.Native

namespace WasmLua.Exec.SpecTest

variable {ω : Type}

def line (type : Wasm.ValueType) (value : HostValue) : Bytes := value.text ++ Bytes.ofString (" : " ++ type.text ++ "\n")

def printer (print : Bytes → ω → ω) (types : List Wasm.ValueType) : Entity ω := .host ⟨types, []⟩ fun args world =>
    (.ok [], print (List.zipWith line types args).flatten world)

def printers (print : Bytes → ω → ω) : List (String × Entity ω) :=
  [("print", printer print []), ("print_i32", printer print [.i32]), ("print_i64", printer print [.i64]),
    ("print_f32", printer print [.f32]), ("print_f64", printer print [.f64]),
    ("print_i32_f32", printer print [.i32, .f32]), ("print_f64_f64", printer print [.f64, .f64])]

def globals : List (String × Wasm.ValueType × HostValue) :=
  let value : Rat := mkRat 6666 10
  [("global_i32", .i32, .int32 666), ("global_i64", .i64, .int64 666),
    ("global_f32", .f32, .float32 (Format.binary32.round value)), ("global_f64", .f64, .float64 (Format.binary64.round value))]

def fields (print : Bytes → ω → ω) : Embedding ω (List (Bytes × Entity ω)) := do
  let cells ← globals.mapM fun (name, type, value) => do
    let cell ← newGlobal ⟨type, false⟩ value
    return (name, Entity.value cell.cell)
  let table ← newTable 10 20
  let memory ← newMemory 1 2
  return (printers print ++ cells ++ [("table", Entity.value table), ("memory", Entity.value memory)]).map
    fun (name, entity) => (Bytes.ofString name, entity)

end WasmLua.Exec.SpecTest
