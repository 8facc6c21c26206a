import WasmLua.Exec.HostValue

namespace WasmLua.Command

inductive ArgumentError where
  | literal (error : LiteralError)
  | type (type : Wasm.ValueType)
deriving DecidableEq, Repr

def ArgumentError.message : ArgumentError → String
  | .literal error => error.message
  | .type asked => "cannot pass a " ++ asked.text ++ " argument from the command line"

def parseWord (width : Nat) (text : Bytes) : Except LiteralError Int :=
  match Literal.signed? width text with
  | some value => .ok value
  | none => (fun value : Nat => (value : Int)) <$> Literal.unsigned width text

def parseArgument (type : Wasm.ValueType) (text : Bytes) : Except ArgumentError Exec.HostValue :=
  match type with
  | .i32 => (parseWord 32 text).mapError .literal |>.map fun value => .int32 (Int32.ofInt value)
  | .i64 => (parseWord 64 text).mapError .literal |>.map fun value => .int64 (Int64.ofInt value)
  | .f32 => (Literal.float .binary32 text).mapError .literal |>.map .float32
  | .f64 => (Literal.float .binary64 text).mapError .literal |>.map .float64
  | type => .error (.type type)

end WasmLua.Command
