import WasmLua.Text.Bytes

namespace WasmLua.Yaml

def isWritable (c : Char) : Bool := c == '\t' || c == '\n' || c == '\r' || (' ' ≤ c && c ≤ '~') || c.toNat == 0x85
    || (0xa0 ≤ c.toNat && c.toNat ≤ 0xfffd) || 0x10000 ≤ c.toNat

namespace Characters

def units (lowFirst : Bool) : Bytes → Option (List Nat)
  | [] => some []
  | [_] => none
  | a :: b :: rest => do
    let unit := if lowFirst then a.toNat + 256 * b.toNat else 256 * a.toNat + b.toNat
    return unit :: (← units lowFirst rest)

def ofUnits : List Nat → Option (List Char)
  | [] => some []
  | unit :: rest =>
    if 0xdc00 ≤ unit && unit < 0xe000 then none
    else if 0xd800 ≤ unit && unit < 0xdc00 then
      match rest with
      | low :: rest =>
        if 0xdc00 ≤ low && low < 0xe000 then
          (Char.ofNat (0x10000 + (unit - 0xd800) * 1024 + (low - 0xdc00)) :: ·) <$> ofUnits rest
        else none
      | [] => none
    else (Char.ofNat unit :: ·) <$> ofUnits rest

def ofUtf8 (content : Bytes) : Option (List Char) :=
  if content.isText then some content.toText.toList else none

def read? (content : Bytes) : Option (List Char) :=
  match content with
  | 0xff :: 0xfe :: rest => (units true rest).bind ofUnits
  | 0xfe :: 0xff :: rest => (units false rest).bind ofUnits
  | 0xef :: 0xbb :: 0xbf :: rest => ofUtf8 rest
  | content => ofUtf8 content

end Characters

def characters? (content : Bytes) : Option (List Char) := do
  let chars ← Characters.read? content
  if chars.all isWritable then some chars else none

end WasmLua.Yaml
