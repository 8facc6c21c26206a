import WasmLua.Yaml.Cursor

namespace WasmLua.Yaml

structure Gap where
  blanks : List Char
  broken : Bool
  first : List Char
  more : List Char

namespace Gap

def none : Gap := ⟨[], false, [], []⟩

def escaped : Gap := ⟨[], true, [], []⟩

def addBreak (gap : Gap) (text : List Char) : Gap :=
  if gap.broken then { gap with more := gap.more ++ text } else ⟨[], true, text, []⟩

def addBlank (gap : Gap) (c : Char) : Gap :=
  if gap.broken then gap else { gap with blanks := gap.blanks ++ [c] }

def text (gap : Gap) : List Char :=
  if !gap.broken then gap.blanks
  else if gap.first.head? == some '\n' then (if gap.more.isEmpty then [' '] else gap.more)
  else gap.first ++ gap.more

def read? (limit : Int) : Nat → Gap → Cursor → Option (Gap × Cursor)
  | 0, gap, cursor => some (gap, cursor)
  | fuel + 1, gap, cursor =>
    match cursor.rest with
    | [] => some (gap, cursor)
    | c :: _ =>
      if isBlank c then
        if gap.broken && (cursor.column : Int) < limit && c == '\t' then Option.none
        else read? limit fuel (gap.addBlank c) (cursor.pass 1)
      else if isBreak c then
        let (text, cursor) := cursor.readBreak
        read? limit fuel (gap.addBreak text) cursor
      else some (gap, cursor)

end Gap

namespace Scalar

def plainPart (flow : Bool) : List Char → List Char
  | [] => []
  | c :: rest =>
    if isBlank c || isBreak c || (c == ':' && startsBlank rest)
      || (flow && (isFlowMark c || c == '?')) then []
    else c :: plainPart flow rest

def plainFrom (flow : Bool) (indent : Int) : Nat → List Char → Gap → Cursor → Option (List Char × Gap × Cursor)
  | 0, text, gap, cursor => some (text, gap, cursor)
  | fuel + 1, text, gap, cursor =>
    if cursor.atDocumentMark || cursor.head? == some '#' then some (text, gap, cursor)
    else
      let part := plainPart flow cursor.rest
      let cursor := cursor.pass part.length
      let (text, gap) := if part.isEmpty then (text, gap) else (text ++ gap.text ++ part, Gap.none)
      if cursor.rest.isEmpty || !startsBlank cursor.rest then some (text, gap, cursor)
      else
        match gap.read? indent cursor.rest.length cursor with
        | none => none
        | some (gap, cursor) =>
          if !flow && (cursor.column : Int) < indent then some (text, gap, cursor)
          else plainFrom flow indent fuel text gap cursor

def plain? (flow : Bool) (indent : Int) (cursor : Cursor) : Option (String × Bool × Cursor) := do
  let (text, gap, cursor) ← plainFrom flow indent cursor.rest.length [] .none cursor
  return (String.ofList text, gap.broken, cursor)

def simpleEscapes : List (Char × Nat) :=
  [('0', 0x00), ('a', 0x07), ('b', 0x08), ('t', 0x09), ('\t', 0x09), ('n', 0x0a), ('v', 0x0b),
    ('f', 0x0c), ('r', 0x0d), ('e', 0x1b), (' ', 0x20), ('"', 0x22), ('\'', 0x27), ('\\', 0x5c),
    ('N', 0x85), ('_', 0xa0), ('L', 0x2028), ('P', 0x2029)]

def hexDigit? (c : Char) : Option Nat :=
  if '0' ≤ c && c ≤ '9' then some (c.toNat - 48)
  else if 'a' ≤ c && c ≤ 'f' then some (c.toNat - 87)
  else if 'A' ≤ c && c ≤ 'F' then some (c.toNat - 55)
  else none

def hexChar? (digits : List Char) (width : Nat) : Option Char := do
  if digits.length < width then none
  else
    let value ← (digits.take width).foldlM (fun value c => do return value * 16 + (← hexDigit? c)) 0
    if value < 0xd800 || (0xe000 ≤ value && value < 0x110000) then some (Char.ofNat value) else none

def escapeWidth? (c : Char) : Option Nat :=
  if c == 'x' then some 2 else if c == 'u' then some 4 else if c == 'U' then some 8 else none

def escape? : List Char → Option (Char × Nat)
  | [] => none
  | c :: rest =>
    match escapeWidth? c with
    | some width => (hexChar? rest width).map (·, width + 1)
    | none => (simpleEscapes.lookup c).map (Char.ofNat ·, 1)

def singlePart : Nat → List Char → Cursor → List Char × Cursor
  | 0, text, cursor => (text, cursor)
  | fuel + 1, text, cursor =>
    match cursor.rest with
    | '\'' :: '\'' :: _ => singlePart fuel (text ++ ['\'']) (cursor.pass 2)
    | c :: _ =>
      if c == '\'' || isBlank c || isBreak c then (text, cursor)
      else singlePart fuel (text ++ [c]) (cursor.pass 1)
    | [] => (text, cursor)

def doublePart? : Nat → List Char → Cursor → Option (List Char × Gap × Cursor)
  | 0, text, cursor => some (text, .none, cursor)
  | fuel + 1, text, cursor =>
    match cursor.rest with
    | '\\' :: rest =>
      if !rest.isEmpty && endsLine rest then some (text, .escaped, (cursor.pass 1).passBreak)
      else
        match escape? rest with
        | some (c, taken) => doublePart? fuel (text ++ [c]) (cursor.pass (taken + 1))
        | none => none
    | c :: _ =>
      if c == '"' || isBlank c || isBreak c then some (text, .none, cursor)
      else doublePart? fuel (text ++ [c]) (cursor.pass 1)
    | [] => some (text, .none, cursor)

def quotedFrom (single : Bool) : Nat → List Char → Cursor → Option (String × Cursor)
  | 0, _, _ => none
  | fuel + 1, text, cursor =>
    if cursor.atDocumentMark || cursor.rest.isEmpty then none
    else
      let quote := if single then '\'' else '"'
      let part :=
        if single then
          let (text, cursor) := singlePart cursor.rest.length text cursor
          some (text, Gap.none, cursor)
        else doublePart? cursor.rest.length text cursor
      match part with
      | none => none
      | some (text, gap, cursor) =>
        if cursor.head? == some quote then some (String.ofList text, cursor.pass 1)
        else
          match gap.read? (-1) cursor.rest.length cursor with
          | none => none
          | some (gap, cursor) => quotedFrom single fuel (text ++ gap.text) cursor

def quoted? (single : Bool) (cursor : Cursor) : Option (String × Cursor) :=
  quotedFrom single (cursor.rest.length + 1) [] (cursor.pass 1)

inductive Chomping where
  | clip
  | strip
  | keep
deriving DecidableEq, Repr

def chomping? (c : Char) : Option Chomping :=
  if c == '+' then some .keep else if c == '-' then some .strip else none

def blockHeader? (cursor : Cursor) : Option (Chomping × Nat × Cursor) :=
  let indent? (cursor : Cursor) : Option (Nat × Cursor) :=
    match cursor.head? with
    | some c =>
      if c == '0' then none
      else if c.isDigit then some (c.toNat - 48, cursor.pass 1)
      else some (0, cursor)
    | none => some (0, cursor)
  match cursor.head?.bind chomping? with
  | some chomping => (indent? (cursor.pass 1)).map fun (indent, cursor) => (chomping, indent, cursor)
  | none => do
    let (indent, cursor) ← indent? cursor
    if indent = 0 then return (.clip, 0, cursor)
    else
      match cursor.head?.bind chomping? with
      | some chomping => return (chomping, indent, cursor.pass 1)
      | none => return (.clip, indent, cursor)

def blockBreaks? (indent : Nat) : Nat → Nat → List Char → Cursor → Option (Nat × List Char × Cursor)
  | 0, furthest, breaks, cursor => some (furthest, breaks, cursor)
  | fuel + 1, furthest, breaks, cursor =>
    let spaces := (cursor.rest.takeWhile (· == ' ')).length
    let cursor := cursor.pass (if indent = 0 then spaces else min spaces (indent - cursor.column))
    let furthest := max furthest cursor.column
    if (indent = 0 || cursor.column < indent) && cursor.head? == some '\t' then none
    else if cursor.rest.isEmpty || !endsLine cursor.rest then some (furthest, breaks, cursor)
    else
      let (text, cursor) := cursor.readBreak
      blockBreaks? indent fuel furthest (breaks ++ text) cursor

structure BlockText where
  text : List Char
  last : List Char
  empty : List Char
  further : Bool

namespace BlockText

def addLine (block : BlockText) (fold : Bool) (line : List Char) : BlockText :=
  let further := (line.head?.map isBlank).getD false
  let joint :=
    if fold && !block.further && !further && block.last.head? == some '\n' then
      (if block.empty.isEmpty then [' '] else [])
    else block.last
  ⟨block.text ++ joint ++ block.empty ++ line, [], [], further⟩

def finish (block : BlockText) : Chomping → List Char
  | .strip => block.text
  | .clip => block.text ++ block.last
  | .keep => block.text ++ block.last ++ block.empty

end BlockText

def blockFrom (fold : Bool) (indent : Nat) : Nat → BlockText → Cursor → Option (BlockText × Cursor)
  | 0, block, cursor => some (block, cursor)
  | fuel + 1, block, cursor =>
    if cursor.column ≠ indent || cursor.rest.isEmpty then some (block, cursor)
    else
      let line := cursor.rest.takeWhile (!isBreak ·)
      let (last, cursor) := (cursor.pass line.length).readBreak
      match blockBreaks? indent (cursor.rest.length + 1) 0 [] cursor with
      | none => none
      | some (_, empty, cursor) =>
        blockFrom fold indent fuel { block.addLine fold line with last, empty } cursor

def block? (fold : Bool) (parent : Int) (cursor : Cursor) : Option (String × Cursor) := do
  let (chomping, extra, cursor) ← blockHeader? (cursor.pass 1)
  let cursor := cursor.passBlanks
  let cursor := if cursor.head? == some '#' then cursor.passLine else cursor
  if !endsLine cursor.rest then none
  else
    let given := if extra = 0 then 0 else parent.toNat + extra
    let cursor := cursor.passBreak
    let (furthest, empty, cursor) ← blockBreaks? given (cursor.rest.length + 1) 0 [] cursor
    let indent := if given = 0 then max furthest (max (parent + 1).toNat 1) else given
    let (block, cursor) ← blockFrom fold indent cursor.rest.length ⟨[], [], empty, false⟩ cursor
    return (String.ofList (block.finish chomping), cursor)

end Scalar

end WasmLua.Yaml
