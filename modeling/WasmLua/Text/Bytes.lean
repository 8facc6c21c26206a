namespace WasmLua

abbrev Bytes := List UInt8

namespace Bytes

def ofString (text : String) : Bytes := text.toUTF8.toList

inductive Piece where
  | char (value : Char)
  | stray (byte : UInt8)
deriving DecidableEq, Repr

def continuation? (byte : UInt8) : Option Nat :=
  if 0x80 ≤ byte && byte < 0xc0 then some (byte.toNat - 0x80) else none

def charAt? (first : UInt8) (rest : Bytes) : Option (Char × Nat) :=
  if first < 0x80 then some (Char.ofNat first.toNat, 0)
  else if first < 0xe0 then
    match rest with
    | b :: _ => do
      let low ← continuation? b
      let code := (first.toNat - 0xc0) * 64 + low
      if 0xc0 ≤ first && 0x80 ≤ code then some (Char.ofNat code, 1) else none
    | _ => none
  else if first < 0xf0 then
    match rest with
    | b :: c :: _ => do
      let middle ← continuation? b
      let low ← continuation? c
      let code := (first.toNat - 0xe0) * 4096 + middle * 64 + low
      if 0x800 ≤ code && !(0xd800 ≤ code && code < 0xe000) then some (Char.ofNat code, 2) else none
    | _ => none
  else
    match rest with
    | b :: c :: d :: _ => do
      let high ← continuation? b
      let middle ← continuation? c
      let low ← continuation? d
      let code := (first.toNat - 0xf0) * 262144 + high * 4096 + middle * 64 + low
      if 0x10000 ≤ code && code < 0x110000 then some (Char.ofNat code, 3) else none
    | _ => none

def piecesFrom : Nat → Bytes → List Piece
  | _, [] => []
  | skip + 1, _ :: rest => piecesFrom skip rest
  | 0, first :: rest =>
    match charAt? first rest with
    | some (value, taken) => .char value :: piecesFrom taken rest
    | none => .stray first :: piecesFrom 0 rest

def pieces (bytes : Bytes) : List Piece := piecesFrom 0 bytes

def isText (bytes : Bytes) : Bool := (pieces bytes).all fun
    | .char _ => true
    | .stray _ => false

def toText (bytes : Bytes) : String := String.ofList ((pieces bytes).map fun
    | .char value => value
    | .stray _ => '�')

def before : Bytes → Bytes → Bool
  | _, [] => false
  | [], _ :: _ => true
  | a :: as, b :: bs => a < b || (a == b && before as bs)

def occurs (part : Bytes) : Bytes → Bool
  | [] => part.isEmpty
  | whole@(_ :: rest) => part.isPrefixOf whole || occurs part rest

end Bytes

end WasmLua
