import WasmLua.Wasm.Module

namespace WasmLua.Binary

inductive Fault where
  | malformed
  | emptyBody
deriving DecidableEq, Repr

abbrev Reader := StateT Bytes (Except Fault)

namespace Reader

def malformed {α : Type} : Reader α := fun _ => .error .malformed

def guard (condition : Bool) : Reader Unit := if condition then pure () else malformed

def byte : Reader UInt8
  | [] => .error .malformed
  | first :: rest => .ok (first, rest)

def bytes (count : Nat) : Reader Bytes := fun input =>
  let (front, rest) := input.splitAt count
  if front.length = count then .ok (front, rest) else .error .malformed

def unsigned : Nat → Bytes → Except Fault (Nat × Bytes)
  | _, [] => .error .malformed
  | width, first :: rest =>
    if first < 0x80 then
      if first.toNat < Nat.pow 2 width then .ok (first.toNat, rest) else .error .malformed
    else if 7 < width then
      match unsigned (width - 7) rest with
      | .ok (high, rest) => .ok (first.toNat - 128 + 128 * high, rest)
      | .error fault => .error fault
    else .error .malformed

def signed : Nat → Bytes → Except Fault (Int × Bytes)
  | _, [] => .error .malformed
  | width, first :: rest =>
    if first < 0x40 then
      if first.toNat < Nat.pow 2 (width - 1) then .ok (first.toNat, rest) else .error .malformed
    else if first < 0x80 then
      if 0x80 ≤ first.toNat + Nat.pow 2 (width - 1) then .ok ((first.toNat : Int) - 0x80, rest)
      else .error .malformed
    else if 7 < width then
      match signed (width - 7) rest with
      | .ok (high, rest) => .ok ((first.toNat : Int) - 128 + 128 * high, rest)
      | .error fault => .error fault
    else .error .malformed

def u32 : Reader UInt32 := do return UInt32.ofNat (← unsigned 32)
def i32 : Reader Int32 := do return Int32.ofInt (← signed 32)
def i64 : Reader Int64 := do return Int64.ofInt (← signed 64)

def littleEndian (count : Nat) : Reader Nat := do
  return (← bytes count).foldr (fun byte high => byte.toNat + 256 * high) 0

def many {α : Type} (item : Reader α) : Nat → Reader (List α)
  | 0 => pure []
  | count + 1 => do
    let first ← item
    let rest ← many item count
    return first :: rest

def vector {α : Type} (item : Reader α) : Reader (List α) := do
  many item (← u32).toNat

def blob : Reader Bytes := do bytes (← u32).toNat

def name : Reader Bytes := do
  let value ← blob
  guard value.isText
  return value

def rest : Reader Bytes := fun input => .ok (input, [])

end Reader

end WasmLua.Binary
