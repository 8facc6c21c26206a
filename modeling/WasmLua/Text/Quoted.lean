import WasmLua.Text.Bytes
import WasmLua.Text.Printable

namespace WasmLua.Quoted

def hex (width value : Nat) : String :=
  let digits := Nat.toDigits 16 value
  String.ofList (List.replicate (width - digits.length) '0' ++ digits)

def char (mark value : Char) : String :=
  if value == mark || value == '\\' then String.ofList ['\\', value]
  else if Printable.isPrintable value then String.ofList [value]
  else match value.toNat with
    | 0x07 => "\\a"
    | 0x08 => "\\b"
    | 0x0c => "\\f"
    | 0x0a => "\\n"
    | 0x0d => "\\r"
    | 0x09 => "\\t"
    | 0x0b => "\\v"
    | code =>
      if code < 0x20 || code == 0x7f then "\\x" ++ hex 2 code
      else if code < 0x10000 then "\\u" ++ hex 4 code
      else "\\U" ++ hex 8 code

def piece : Bytes.Piece → String
  | .char value => char '"' value
  | .stray byte => "\\x" ++ hex 2 byte.toNat

def bytes (value : Bytes) : String := "\"" ++ String.join ((Bytes.pieces value).map piece) ++ "\""

def single (value : Char) : String := "'" ++ char '\'' value ++ "'"

end WasmLua.Quoted
