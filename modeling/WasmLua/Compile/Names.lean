import WasmLua.Prelude.Text
import WasmLua.Wasm.Module

namespace WasmLua.Compile

def keywords : List String := ["and", "break", "do", "else", "elseif", "end", "false", "for", "function", "if", "in", "local",
    "nil", "not", "or", "repeat", "return", "then", "true", "until", "while"]

def isLetter (byte : UInt8) : Bool := byte == 0x5f || (0x61 ≤ byte && byte ≤ 0x7a) || (0x41 ≤ byte && byte ≤ 0x5a)

def isDigit (byte : UInt8) : Bool := 0x30 ≤ byte && byte ≤ 0x39

def isIdentifier (name : Bytes) : Bool :=
  match name with
  | [] => false
  | first :: rest =>
    isLetter first && rest.all (fun byte => isLetter byte || isDigit byte) && !keywords.any (Bytes.ofString · == name)

def sanitize (name : Bytes) : String := String.ofList <| name.map fun byte =>
    if isLetter byte || isDigit byte then Char.ofNat byte.toNat else '_'

def baseName (debugNames : Bool) (index : Nat) (function : Wasm.Function) : String :=
  if debugNames && !function.name.isEmpty then sanitize function.name else s!"f{index}"

def clashes (names : List String) (name : String) : Bool := 1 < names.count name || Prelude.reserved.contains name

def renameClashing (names : List String) : List String :=
  names.mapIdx fun index name => if clashes names name then s!"{name}_{index}" else name

def distinctNames : Nat → List String → List String
  | 0, names => names
  | rounds + 1, names =>
    if names.any (clashes names) then distinctNames rounds (renameClashing names) else names

def functionNames (functions : List Wasm.Function) (debugNames : Bool) : List String :=
  distinctNames (functions.length + 1) (functions.mapIdx (baseName debugNames))

end WasmLua.Compile
