import WasmLua.Yaml.Scalar
import WasmLua.Yaml.Token

namespace WasmLua.Yaml.Name

def endsName (text : List Char) : Bool := startsBlank text ||
    (text.head?.map ['?', ':', ',', ']', '\x7d', '%', '@', '\x60'].contains).getD false

def node? (cursor : Cursor) : Option (String × Cursor) :=
  let cursor := cursor.pass 1
  let name := cursor.rest.takeWhile isWord
  let after := cursor.pass name.length
  if !name.isEmpty && endsName after.rest then some (String.ofList name, after) else none

def tagMarks : List Char := [';', '/', '?', ':', '@', '&', '=', '+', '$', ',', '.', '!', '~', '*', '\'', '(', ')', '[', ']']

def encodedLength? (byte : Nat) : Option Nat :=
  if byte < 0x80 then some 1
  else if 0xc0 ≤ byte && byte < 0xe0 then some 2
  else if 0xe0 ≤ byte && byte < 0xf0 then some 3
  else if 0xf0 ≤ byte && byte < 0xf8 then some 4
  else none

def escapedByte? : List Char → Option Nat
  | '%' :: high :: low :: _ => do return 16 * (← Scalar.hexDigit? high) + (← Scalar.hexDigit? low)
  | _ => none

def escapedRest? : Nat → Cursor → Option (Bytes × Cursor)
  | 0, cursor => some ([], cursor)
  | count + 1, cursor => do
    let byte ← escapedByte? cursor.rest
    if 0x80 ≤ byte && byte < 0xc0 then
      let (rest, cursor) ← escapedRest? count (cursor.pass 3)
      return (UInt8.ofNat byte :: rest, cursor)
    else none

def escapedChar? (cursor : Cursor) : Option (Bytes × Cursor) := do
  let byte ← escapedByte? cursor.rest
  let length ← encodedLength? byte
  let (rest, cursor) ← escapedRest? (length - 1) (cursor.pass 3)
  return (UInt8.ofNat byte :: rest, cursor)

def tagText? : Nat → Bytes → Cursor → Option (Bytes × Cursor)
  | 0, text, cursor => some (text, cursor)
  | fuel + 1, text, cursor =>
    match cursor.rest with
    | [] => some (text, cursor)
    | c :: _ =>
      if c == '%' then
        match escapedChar? cursor with
        | none => none
        | some (bytes, cursor) => tagText? fuel (text ++ bytes) cursor
      else if isWord c || tagMarks.contains c then
        tagText? fuel (text ++ Bytes.ofString c.toString) (cursor.pass 1)
      else some (text, cursor)

def someTagText? (cursor : Cursor) : Option (Bytes × Cursor) := do
  let (text, cursor) ← tagText? cursor.rest.length [] cursor
  if text.isEmpty then none else return (text, cursor)

def handle (cursor : Cursor) : List Char × Cursor :=
  let after := cursor.pass 1
  let word := after.rest.takeWhile isWord
  let after := after.pass word.length
  if after.head? == some '!' then ('!' :: word ++ ['!'], after.pass 1) else ('!' :: word, after)

def bytes (text : List Char) : Bytes := Bytes.ofString (String.ofList text)

def tag? (cursor : Cursor) : Option (Bytes × Bytes × Cursor) := do
  let (found, suffix, after) ←
    if cursor.rest.take 2 == ['!', '<'] then do
      let (suffix, after) ← someTagText? (cursor.pass 2)
      if after.head? == some '>' then some ([], suffix, after.pass 1) else none
    else
      let (found, after) := handle cursor
      if 1 < found.length && found.getLast? == some '!' then do
        let (suffix, after) ← someTagText? after
        some (bytes found, suffix, after)
      else do
        let (suffix, after) ← tagText? after.rest.length (bytes (found.drop 1)) after
        if suffix.isEmpty then some ([], bytes ['!'], after) else some (bytes ['!'], suffix, after)
  if startsBlank after.rest then return (found, suffix, after) else none

def versionNumber? (cursor : Cursor) : Option (Nat × Cursor) :=
  let digits := cursor.rest.takeWhile Char.isDigit
  if digits.isEmpty || 2 < digits.length then none
  else some (digits.foldl (fun value c => value * 10 + (c.toNat - 48)) 0, cursor.pass digits.length)

def version? (cursor : Cursor) : Option (Token × Cursor) := do
  let (major, cursor) ← versionNumber? cursor.passBlanks
  if cursor.head? == some '.' then
    let (minor, cursor) ← versionNumber? (cursor.pass 1)
    return (.version major minor, cursor)
  else none

def tagHandle? (cursor : Cursor) : Option (Token × Cursor) := do
  let cursor := cursor.passBlanks
  if cursor.head? != some '!' then none
  else
    let (found, after) := handle cursor
    if found.length > 1 && found.getLast? != some '!' then none
    else if (after.head?.map isBlank).getD false then
      let (start, after) ← someTagText? after.passBlanks
      if startsBlank after.rest then return (.tagHandle (bytes found) start, after) else none
    else none

def directive? (cursor : Cursor) : Option (Token × Cursor) := do
  let cursor := cursor.pass 1
  let word := cursor.rest.takeWhile isWord
  let cursor := cursor.pass word.length
  if word.isEmpty || !startsBlank cursor.rest then none
  else
    let (token, cursor) ←
      if word == "YAML".toList then version? cursor
      else if word == "TAG".toList then tagHandle? cursor
      else none
    let cursor := cursor.passBlanks
    let cursor := if cursor.head? == some '#' then cursor.passLine else cursor
    if endsLine cursor.rest then return (token, cursor.passBreak) else none

end WasmLua.Yaml.Name
