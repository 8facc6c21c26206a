import WasmLua.Text.Bytes

namespace WasmLua.Target.Quoted

def digit (value : Nat) : Char := Char.ofNat (48 + value % 10)

def byte (value : UInt8) : List Char :=
  if value == 0x22 || value == 0x5c then ['\\', Char.ofNat value.toNat]
  else if 0x20 ≤ value && value < 0x7f then [Char.ofNat value.toNat]
  else ['\\', digit (value.toNat / 100), digit (value.toNat / 10), digit value.toNat]

def chars (value : Bytes) : List Char := '"' :: value.flatMap byte ++ ['"']

def text (value : Bytes) : String := String.ofList (chars value)

end WasmLua.Target.Quoted
