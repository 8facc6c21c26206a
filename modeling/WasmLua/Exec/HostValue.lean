import WasmLua.Exec.Failure

namespace WasmLua

open Bytes

def Number.toInt64 (number : Number) : Int64 :=
  match number with
  | .finite value =>
    let whole := value.num.tdiv value.den
    if -0x8000000000000000 ≤ whole ∧ whole < 0x8000000000000000 then Int64.ofInt whole else Int64.minValue
  | .negZero => 0
  | _ => Int64.minValue

def Number.toUInt64 (number : Number) : UInt64 :=
  let half : Number := .ofInt 0x8000000000000000
  if number.lt half then number.toInt64.toUInt64
  else (number - half).toInt64.toUInt64 ||| 0x8000000000000000

def Number.toUInt32 (number : Number) : UInt32 := number.toInt64.toUInt64.toUInt32

namespace Exec

inductive HostValue where
  | int32 (value : Int32)
  | uint32 (value : UInt32)
  | int (value : Int64)
  | int64 (value : Int64)
  | uint64 (value : UInt64)
  | float32 (value : Number)
  | float64 (value : Number)
  | string (value : Bytes)
  | null
  | held (value : Value)
deriving DecidableEq, Repr

namespace HostValue

def typeName : HostValue → String
  | .int32 _ => "int32"
  | .uint32 _ => "uint32"
  | .int _ => "int"
  | .int64 _ => "int64"
  | .uint64 _ => "uint64"
  | .float32 _ => "float32"
  | .float64 _ => "float64"
  | .string _ => "string"
  | .null => "<nil>"
  | .held .null => "*lua.LNilType"
  | .held (.bool _) => "lua.LBool"
  | .held (.number _) => "lua.LNumber"
  | .held (.text _) => "lua.LString"
  | .held (.function _) => "*lua.LFunction"
  | .held _ => "*lua.LTable"

def pairOf (word : UInt64) : Made := .fresh (.ofInt word.toUInt32.toNat) (.ofInt (word >>> 32).toUInt32.toNat)

def i32Of (value : Int32) : Made := .held (.ofInt value.toInt)

def toValue (type : Wasm.ValueType) (value : HostValue) : Except Mismatch Made :=
  match type, value with
  | .i32, .int32 value => .ok (i32Of value)
  | .i32, .uint32 value => .ok (i32Of value.toInt32)
  | .i32, .int value => .ok (i32Of value.toInt32)
  | .i64, .int64 value => .ok (pairOf value.toUInt64)
  | .i64, .uint64 value => .ok (pairOf value)
  | .i64, .int value => .ok (pairOf value.toUInt64)
  | .f32, .float32 value => .ok (.held (.number value))
  | .f64, .float64 value => .ok (.held (.number value))
  | .f64, .float32 value => .ok (.held (.number value))
  | .funcref, .null => .ok (.held .null)
  | .funcref, .held value => .ok (.held value)
  | .externref, .null => .ok (.held .null)
  | .externref, .held value => .ok (.held value)
  | type, value => .error (.passed type value.typeName)

def ofReference : Value → HostValue
  | .null => .null
  | value => .held value

def ofValue (pair? : Value → Option (Pair Number)) (type : Wasm.ValueType) (value : Value) : Except Mismatch HostValue :=
  match type, value with
  | .i32, .number value => .ok (.int32 value.toInt64.toInt32)
  | .i64, value =>
    match pair? value with
    | some pair => .ok (.int64 (pair.high.toUInt64 <<< 32 ||| pair.low.toUInt64).toInt64)
    | none => .error (.held .i64 value.kind)
  | .f32, .number value => .ok (.float32 (value.toFormat .binary32))
  | .f64, .number value => .ok (.float64 value)
  | .funcref, value => .ok (ofReference value)
  | .externref, value => .ok (ofReference value)
  | type, value => .error (.held type value.kind)

def numberText (value : Number) : Bytes :=
  match value.toInt? with
  | some whole =>
    if whole = value.toInt64.toInt then ofString (toString whole)
    else ofString (value.text .binary64)
  | none => ofString (value.text .binary64)

def text : HostValue → Bytes
  | .int32 value => ofString (toString value)
  | .uint32 value => ofString (toString value)
  | .int value => ofString (toString value)
  | .int64 value => ofString (toString value)
  | .uint64 value => ofString (toString value)
  | .float32 value => ofString (value.text .binary32)
  | .float64 value => ofString (value.text .binary64)
  | .string value => value
  | .null => ofString "<nil>"
  | .held .null => ofString "nil"
  | .held (.bool value) => ofString (toString value)
  | .held (.number value) => numberText value
  | .held (.text value) => value
  | .held value => ofString value.kind

end HostValue

end Exec

end WasmLua
