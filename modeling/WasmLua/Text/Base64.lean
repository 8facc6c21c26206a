import WasmLua.Text.Bytes

namespace WasmLua.Base64

def digit? (byte : UInt8) : Option Nat :=
  if 0x41 ≤ byte && byte ≤ 0x5a then some (byte.toNat - 0x41)
  else if 0x61 ≤ byte && byte ≤ 0x7a then some (byte.toNat - 0x61 + 26)
  else if 0x30 ≤ byte && byte ≤ 0x39 then some (byte.toNat - 0x30 + 52)
  else if byte == 0x2b then some 62
  else if byte == 0x2f then some 63
  else none

def pad : UInt8 := 0x3d

def group (a b c d : Nat) : Bytes :=
  let value := ((a * 64 + b) * 64 + c) * 64 + d
  [UInt8.ofNat (value / 65536), UInt8.ofNat (value / 256), UInt8.ofNat value]

def decodeDigits : Bytes → Option Bytes
  | [] => some []
  | a :: b :: c :: d :: rest => do
    let first ← digit? a
    let second ← digit? b
    if c == pad && d == pad && rest.isEmpty then some ((group first second 0 0).take 1)
    else
      let third ← digit? c
      if d == pad && rest.isEmpty then some ((group first second third 0).take 2)
      else
        let fourth ← digit? d
        let others ← decodeDigits rest
        some (group first second third fourth ++ others)
  | _ => none

def decode? (text : Bytes) : Option Bytes := decodeDigits (text.filter fun byte => byte != 0x0a && byte != 0x0d)

end WasmLua.Base64
