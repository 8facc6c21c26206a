import WasmLua.Yaml.Characters

namespace WasmLua.Yaml

def isBreak (c : Char) : Bool := c == '\n' || c == '\r' || c.toNat == 0x85 || c.toNat == 0x2028 || c.toNat == 0x2029

def isBlank (c : Char) : Bool := c == ' ' || c == '\t'

def isWord (c : Char) : Bool := c.isAlphanum || c == '-' || c == '_'

def isFlowMark (c : Char) : Bool := [',', '[', ']', '\x7b', '\x7d'].contains c

def startsBlank : List Char → Bool
  | [] => true
  | c :: _ => isBlank c || isBreak c

def endsLine : List Char → Bool
  | [] => true
  | c :: _ => isBreak c

def breakText (c : Char) : List Char :=
  if c.toNat == 0x2028 || c.toNat == 0x2029 then [c] else ['\n']

structure Cursor where
  rest : List Char
  index : Nat
  line : Nat
  column : Nat
  fresh : Bool

namespace Cursor

def start (text : List Char) : Cursor := ⟨text, 0, 0, 0, false⟩

def head? (cursor : Cursor) : Option Char := cursor.rest.head?

def pass (cursor : Cursor) (count : Nat) : Cursor where
  rest := cursor.rest.drop count
  index := cursor.index + count
  line := cursor.line
  column := cursor.column + count
  fresh := cursor.fresh && (cursor.rest.take count).all isBlank

def passWhile (cursor : Cursor) (property : Char → Bool) : Cursor := cursor.pass (cursor.rest.takeWhile property).length

def passBlanks (cursor : Cursor) : Cursor := cursor.passWhile isBlank

def passLine (cursor : Cursor) : Cursor := cursor.passWhile (!isBreak ·)

def readBreak (cursor : Cursor) : List Char × Cursor :=
  let next (rest : List Char) (count : Nat) : Cursor := ⟨rest, cursor.index + count, cursor.line + 1, 0, true⟩
  match cursor.rest with
  | '\r' :: '\n' :: rest => (['\n'], next rest 2)
  | c :: rest => if isBreak c then (breakText c, next rest 1) else ([], cursor)
  | [] => ([], cursor)

def passBreak (cursor : Cursor) : Cursor := cursor.readBreak.2

def atDocumentMark (cursor : Cursor) : Bool := cursor.column == 0 &&
    match cursor.rest with
    | '-' :: '-' :: '-' :: rest => startsBlank rest
    | '.' :: '.' :: '.' :: rest => startsBlank rest
    | _ => false

def passTo (index : Nat) : Nat → Cursor → Cursor
  | 0, cursor => cursor
  | fuel + 1, cursor =>
    if index ≤ cursor.index then cursor
    else if endsLine cursor.rest then passTo index fuel cursor.passBreak
    else passTo index fuel (cursor.pass 1)

def commentReach : Nat := 510

def passComments : Nat → Cursor → Cursor
  | 0, cursor => cursor
  | fuel + 1, cursor =>
    let cursor := cursor.passLine
    match cursor.rest with
    | c :: rest =>
      let isSpace (c : Char) : Bool := isBlank c || c == '\n' || c == '\r'
      let space := rest.takeWhile isSpace
      if isSpace c && space.length ≤ commentReach && (rest.drop space.length).head? == some '#' then
        passComments fuel (passTo (cursor.index + 1 + space.length) fuel cursor)
      else cursor
    | [] => cursor

def passLineComment (cursor : Cursor) : Cursor :=
  let after := cursor.passBlanks
  if !cursor.fresh && after.head? == some '#' then after.passLine else cursor

end Cursor

end WasmLua.Yaml
