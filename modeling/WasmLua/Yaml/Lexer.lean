import WasmLua.Yaml.Name

namespace WasmLua.Yaml

structure SimpleKey where
  required : Bool
  place : Nat
  index : Nat
  line : Nat
  column : Nat

def SimpleKey.maxLength : Nat := 1024

def maxDepth : Nat := 10000

structure Lexer where
  cursor : Cursor
  tokens : Array Token
  indent : Int
  indents : List Int
  key : Option SimpleKey
  outerKeys : List (Option SimpleKey)
  keyAllowed : Bool

namespace Lexer

def start (text : List Char) : Lexer :=
  let cursor := Cursor.start text
  let cursor := if (text.head?.map Char.toNat) == some 0xfeff then cursor.pass 1 else cursor
  ⟨cursor, #[], -1, [], none, [], true⟩

def inFlow (lexer : Lexer) : Bool := !lexer.outerKeys.isEmpty

def push (lexer : Lexer) (token : Token) : Lexer :=
  { lexer with tokens := lexer.tokens.push token }

def pushMark (lexer : Lexer) (token : Token) (count : Nat) : Lexer :=
  { lexer with tokens := lexer.tokens.push token, cursor := lexer.cursor.pass count }

def insert (lexer : Lexer) (place : Nat) (token : Token) : Lexer :=
  { lexer with tokens := lexer.tokens.insertIdxIfInBounds place token }

def allowKey (lexer : Lexer) (allowed : Bool) : Lexer := { lexer with keyAllowed := allowed }

def dropKey? (lexer : Lexer) : Option Lexer :=
  if (lexer.key.map (·.required)).getD false then none else some { lexer with key := none }

def markKey? (lexer : Lexer) : Option Lexer := do
  if lexer.keyAllowed then
    let dropped ← lexer.dropKey?
    let cursor := lexer.cursor
    let required := !lexer.inFlow && lexer.indent == cursor.column
    return { dropped with
      key := some ⟨required, lexer.tokens.size, cursor.index, cursor.line, cursor.column⟩ }
  else return lexer

def openBlock? (lexer : Lexer) (column place : Nat) (token : Token) : Option Lexer :=
  if lexer.inFlow || (column : Int) ≤ lexer.indent then some lexer
  else if maxDepth ≤ lexer.indents.length then none
  else some { lexer.insert place token with
    indent := column, indents := lexer.indent :: lexer.indents }

def closeBlocks (column : Int) : Array Token → Int → List Int → Array Token × Int × List Int
  | tokens, indent, outer :: indents =>
    if column < indent then closeBlocks column (tokens.push .blockEnd) outer indents
    else (tokens, indent, outer :: indents)
  | tokens, indent, [] => (tokens, indent, [])

def closeTo (lexer : Lexer) (column : Int) : Lexer :=
  if lexer.inFlow then lexer
  else
    let (tokens, indent, indents) := closeBlocks column lexer.tokens lexer.indent lexer.indents
    { lexer with tokens, indent, indents }

def passSpace : Nat → Lexer → Lexer
  | 0, lexer => lexer
  | fuel + 1, lexer =>
    let tabs := lexer.inFlow || !lexer.keyAllowed
    let cursor := lexer.cursor.passWhile fun c => c == ' ' || (tabs && c == '\t')
    let cursor :=
      if cursor.head? == some '#' then Cursor.passComments cursor.rest.length cursor else cursor
    if !cursor.rest.isEmpty && endsLine cursor.rest then
      let keyAllowed := lexer.keyAllowed || !lexer.inFlow
      passSpace fuel { lexer with cursor := cursor.passBreak, keyAllowed }
    else { lexer with cursor }

def leave? (lexer : Lexer) : Option Lexer := do
  return (← (lexer.closeTo (-1)).dropKey?).allowKey false

def directive? (lexer : Lexer) : Option Lexer := do
  let lexer ← lexer.leave?
  let (token, cursor) ← Name.directive? lexer.cursor
  return { lexer.push token with cursor }

def blockEntry? (lexer : Lexer) : Option Lexer := do
  if !lexer.inFlow && !lexer.keyAllowed then none
  else
    let opened ← lexer.openBlock? lexer.cursor.column lexer.tokens.size .blockSequenceStart
    return ((← opened.dropKey?).allowKey true).pushMark .blockEntry 1

def openBracket? (lexer : Lexer) (token : Token) : Option Lexer := do
  let lexer ← lexer.markKey?
  if maxDepth ≤ lexer.outerKeys.length then none
  else return { lexer.pushMark token 1 with
    key := none, outerKeys := lexer.key :: lexer.outerKeys, keyAllowed := true }

def closeBracket? (lexer : Lexer) (token : Token) : Option Lexer := do
  let lexer := ((← lexer.dropKey?).allowKey false).pushMark token 1
  match lexer.outerKeys with
  | key :: outerKeys => return { lexer with key, outerKeys }
  | [] => return lexer

def flowEntry? (lexer : Lexer) : Option Lexer := do
  return ((← lexer.dropKey?).allowKey true).pushMark .flowEntry 1

def key? (lexer : Lexer) : Option Lexer := do
  if !lexer.inFlow && !lexer.keyAllowed then none
  else
    let opened ← lexer.openBlock? lexer.cursor.column lexer.tokens.size .blockMappingStart
    return ((← opened.dropKey?).allowKey (!lexer.inFlow)).pushMark .key 1

def isFresh (lexer : Lexer) (key : SimpleKey) : Bool :=
  key.line == lexer.cursor.line && lexer.cursor.index ≤ key.index + SimpleKey.maxLength

def value? (lexer : Lexer) : Option Lexer := do
  match lexer.key.filter lexer.isFresh with
  | some key =>
    let lexer := { lexer.insert key.place .key with key := none }
    let opened ← lexer.openBlock? key.column key.place .blockMappingStart
    return (opened.allowKey false).pushMark .value 1
  | none =>
    let lexer ← lexer.dropKey?
    if !lexer.inFlow && !lexer.keyAllowed then none
    else
      let opened ← lexer.openBlock? lexer.cursor.column lexer.tokens.size .blockMappingStart
      return (opened.allowKey (!lexer.inFlow)).pushMark .value 1

def content? (lexer : Lexer) (read : Cursor → Option (Token × Cursor)) : Option Lexer := do
  let lexer ← lexer.markKey?
  let (token, cursor) ← read lexer.cursor
  return { (lexer.push token).allowKey false with cursor }

def quoted? (lexer : Lexer) (single : Bool) : Option Lexer := lexer.content? fun cursor => do
    let (text, cursor) ← Scalar.quoted? single cursor
    return (.scalar .quoted text, cursor)

def tag? (lexer : Lexer) : Option Lexer := lexer.content? fun cursor => do
    let (handle, suffix, cursor) ← Name.tag? cursor
    return (.tag handle suffix, cursor)

def named? (lexer : Lexer) (token : String → Token) : Option Lexer := lexer.content? fun cursor => do
    let (name, cursor) ← Name.node? cursor
    return (token name, cursor)

def plain? (lexer : Lexer) : Option Lexer := do
  let lexer ← lexer.markKey?
  let (text, broken, cursor) ← Scalar.plain? lexer.inFlow (lexer.indent + 1) lexer.cursor
  return { (lexer.push (.scalar .plain text)).allowKey broken with cursor }

def block? (lexer : Lexer) (fold : Bool) : Option Lexer := do
  let lexer ← lexer.dropKey?
  let (text, cursor) ← Scalar.block? fold lexer.indent lexer.cursor
  return { (lexer.push (.scalar .quoted text)).allowKey true with cursor }

def marks : List Char := ['-', '?', ':', ',', '[', ']', '\x7b', '\x7d', '#', '&', '*', '!', '|', '>', '\'', '"', '%', '@', '\x60']

def startsPlain (flow : Bool) (c : Char) (rest : List Char) : Bool := !(marks.contains c || isBlank c || isBreak c)
    || (c == '-' && !(rest.head?.map isBlank).getD false)
    || (!flow && (c == '?' || c == ':') && !startsBlank rest)

def tokenAt? (lexer : Lexer) (c : Char) (rest : List Char) : Option Lexer :=
  let flow := lexer.inFlow
  match c with
  | '[' => lexer.openBracket? .flowSequenceStart
  | '\x7b' => lexer.openBracket? .flowMappingStart
  | ']' => lexer.closeBracket? .flowSequenceEnd
  | '\x7d' => lexer.closeBracket? .flowMappingEnd
  | ',' => lexer.flowEntry?
  | '*' => lexer.named? .reference
  | '&' => lexer.named? .anchor
  | '!' => lexer.tag?
  | '\'' => lexer.quoted? true
  | '"' => lexer.quoted? false
  | _ =>
    if c == '?' && (flow || startsBlank rest) then lexer.key?
    else if c == ':' && (flow || startsBlank rest) then lexer.value?
    else if c == '|' && !flow then lexer.block? false
    else if c == '>' && !flow then lexer.block? true
    else if startsPlain flow c rest then lexer.plain?
    else none

def next? (lexer : Lexer) : Option Lexer :=
  let lexer := passSpace (lexer.cursor.rest.length + 1) lexer
  let lexer := lexer.closeTo lexer.cursor.column
  match lexer.cursor.rest with
  | [] => return (← lexer.leave?).push .streamEnd
  | c :: rest =>
    if lexer.cursor.column == 0 && c == '%' then lexer.directive?
    else if lexer.cursor.atDocumentMark then do
      let token := if c == '-' then .documentStart else .documentEnd
      return (← lexer.leave?).pushMark token 3
    else if c == '-' && startsBlank rest then lexer.blockEntry?
    else do
      let lexer ← lexer.tokenAt? c rest
      return { lexer with cursor := lexer.cursor.passLineComment }

def run : Nat → Lexer → Tokens
  | 0, lexer => ⟨lexer.tokens, false⟩
  | fuel + 1, lexer =>
    match lexer.next? with
    | none => ⟨lexer.tokens, false⟩
    | some next =>
      if next.tokens.back? == some .streamEnd then ⟨next.tokens, true⟩ else run fuel next

end Lexer

def Tokens.ofText (text : List Char) : Tokens := Lexer.run (text.length + 2) (.start text)

end WasmLua.Yaml
