import WasmLua.Yaml.Lexer
import WasmLua.Yaml.Node

namespace WasmLua.Yaml

structure Reading where
  place : Nat
  names : List (String × Nat)
  named : Array Node

abbrev Reader := ReaderT Tokens (StateT Reading Option)

namespace Reader

def peek : Reader Token := do
  match (← read).get? (← get).place with
  | some token => return token
  | none => failure

def skip : Reader Unit := modify fun reading => { reading with place := reading.place + 1 }

def skipIf (token : Token) : Reader Bool := do
  if (← peek) == token then
    skip
    return true
  else return false

def separator (first : Bool) : Reader Unit := do
  if first then return ()
  else if ← skipIf .flowEntry then return ()
  else failure

def newName (name : String) : Reader Nat := modifyGet fun reading =>
    let place := reading.named.size
    (place, { reading with names := (name, place) :: reading.names, named := reading.named.push .absent })

def setNode (place : Nat) (node : Node) : Reader Unit :=
  modify fun reading => { reading with named := reading.named.setIfInBounds place node }

def reference (name : String) : Reader Node := do
  match (← get).names.lookup name with
  | some place => return .reference name place
  | none => failure

def anchor? : Reader (Option String) := do
  match ← peek with
  | .anchor name =>
    skip
    return some name
  | _ => return none

def tag? (handles : List (Bytes × Bytes)) : Reader (Option Bytes) := do
  match ← peek with
  | .tag [] suffix =>
    skip
    return some suffix
  | .tag handle suffix =>
    skip
    match handles.lookup handle with
    | some start => return some (start ++ suffix)
    | none => failure
  | _ => return none

def properties (handles : List (Bytes × Bytes)) : Reader (Option String × Option Bytes) := do
  match ← anchor? with
  | some name => return (some name, ← tag? handles)
  | none =>
    match ← tag? handles with
    | some tag => return (← anchor?, some tag)
    | none => return (none, none)

mutual

/-- A node. `level` says whether a sequence may stand at the indentation of the mapping around it.
The fuel bounds how deep the readers call each other. -/
def node (handles : List (Bytes × Bytes)) : Nat → Bool → Bool → Reader Node
  | 0, _, _ => failure
  | fuel + 1, block, level => do
    match ← peek with
    | .reference name =>
      skip
      reference name
    | _ =>
      let (name, tag) ← properties handles
      match name with
      | none => content handles fuel block level false tag
      | some name =>
        let place ← newName name
        let node ← content handles fuel block level true tag
        setNode place node
        return node

def content (handles : List (Bytes × Bytes)) : Nat → Bool → Bool → Bool → Option Bytes → Reader Node
  | 0, _, _, _, _ => failure
  | fuel + 1, block, level, named, tag => do
    match ← peek with
    | .scalar style text =>
      skip
      return .scalar style (tag.bind Tag.ofName?) text
    | .flowSequenceStart =>
      skip
      return .sequence (← flowItems handles fuel true)
    | .flowMappingStart =>
      skip
      return .mapping (← flowEntries handles fuel true)
    | token =>
      if level && token == .blockEntry then return .sequence (← levelItems handles fuel)
      else if block && token == .blockSequenceStart then
        skip
        return .sequence (← blockItems handles fuel)
      else if block && token == .blockMappingStart then
        skip
        return .mapping (← blockEntries handles fuel)
      else if named || tag.isSome then return .scalar .plain (tag.bind Tag.ofName?) ""
      else failure

def nodeUnless (handles : List (Bytes × Bytes)) : Nat → List Token → Bool → Bool → Reader Node
  | 0, _, _, _ => failure
  | fuel + 1, ends, block, level => do
    if ends.contains (← peek) then return .absent else node handles fuel block level

def blockItems (handles : List (Bytes × Bytes)) : Nat → Reader (List Node)
  | 0 => failure
  | fuel + 1 => do
    if ← skipIf .blockEntry then
      let item ← nodeUnless handles fuel [.blockEntry, .blockEnd] true false
      return item :: (← blockItems handles fuel)
    else if ← skipIf .blockEnd then return []
    else failure

def levelItems (handles : List (Bytes × Bytes)) : Nat → Reader (List Node)
  | 0 => failure
  | fuel + 1 => do
    if ← skipIf .blockEntry then
      let item ← nodeUnless handles fuel [.blockEntry, .key, .value, .blockEnd] true false
      return item :: (← levelItems handles fuel)
    else return []

def blockEntries (handles : List (Bytes × Bytes)) : Nat → Reader (List (Node × Node))
  | 0 => failure
  | fuel + 1 => do
    if ← skipIf .key then
      let ends := [Token.key, .value, .blockEnd]
      let key ← nodeUnless handles fuel ends true true
      if ← skipIf .value then
        let value ← nodeUnless handles fuel ends true true
        return (key, value) :: (← blockEntries handles fuel)
      else return (key, .absent) :: (← blockEntries handles fuel)
    else if ← skipIf .blockEnd then return []
    else failure

def flowItems (handles : List (Bytes × Bytes)) : Nat → Bool → Reader (List Node)
  | 0, _ => failure
  | fuel + 1, first => do
    if ← skipIf .flowSequenceEnd then return []
    else
      separator first
      if ← skipIf .key then
        let item ← flowPair handles fuel
        return item :: (← flowItems handles fuel false)
      else if ← skipIf .flowSequenceEnd then return []
      else
        let item ← node handles fuel false false
        return item :: (← flowItems handles fuel false)

def flowPair (handles : List (Bytes × Bytes)) : Nat → Reader Node
  | 0 => failure
  | fuel + 1 => do
    let token ← peek
    let key ←
      if [.value, .flowEntry, .flowSequenceEnd].contains token then do
        skip
        pure Node.absent
      else node handles fuel false false
    if ← skipIf .value then
      let value ← nodeUnless handles fuel [.flowEntry, .flowSequenceEnd] false false
      return .mapping [(key, value)]
    else return .mapping [(key, .absent)]

def flowEntries (handles : List (Bytes × Bytes)) : Nat → Bool → Reader (List (Node × Node))
  | 0, _ => failure
  | fuel + 1, first => do
    if ← skipIf .flowMappingEnd then return []
    else
      separator first
      if ← skipIf .key then
        let key ← nodeUnless handles fuel [.value, .flowEntry, .flowMappingEnd] false false
        if ← skipIf .value then
          let value ← nodeUnless handles fuel [.flowEntry, .flowMappingEnd] false false
          return (key, value) :: (← flowEntries handles fuel false)
        else return (key, .absent) :: (← flowEntries handles fuel false)
      else if ← skipIf .flowMappingEnd then return []
      else
        let key ← node handles fuel false false
        return (key, .absent) :: (← flowEntries handles fuel false)

end

def directives : Nat → Bool → List (Bytes × Bytes) → Reader (List (Bytes × Bytes))
  | 0, _, _ => failure
  | fuel + 1, versioned, handles => do
    match ← peek with
    | .version major minor =>
      if versioned || (major, minor) != (1, 1) then failure
      else
        skip
        directives fuel true handles
    | .tagHandle handle start =>
      if (handles.lookup handle).isSome then failure
      else
        skip
        directives fuel versioned (handles ++ [(handle, start)])
    | _ => return handles

def standardHandles : List (Bytes × Bytes) := [(Bytes.ofString "!", Bytes.ofString "!"), (Bytes.ofString "!!", Tag.standardStart)]

def document (fuel : Nat) : Reader Node := do
  match ← peek with
  | .streamEnd => return .absent
  | .version .. | .tagHandle .. | .documentStart =>
    let handles ← directives fuel false []
    if ← skipIf .documentStart then
      let root ←
        match ← peek with
        | .version .. | .tagHandle .. | .documentStart | .documentEnd | .streamEnd =>
          pure Node.absent
        | _ => node (handles ++ standardHandles) fuel true false
      discard peek
      return root
    else failure
  | _ =>
    let root ← node standardHandles fuel true false
    discard peek
    return root

end Reader

def Document.parse? (content : Bytes) : Option Document := do
  let tokens := Tokens.ofText (← characters? content)
  let size := tokens.all.size
  let (root, reading) ← (Reader.document (4 * size + 8)).run tokens |>.run ⟨0, [], #[]⟩
  return ⟨root, reading.named, size⟩

end WasmLua.Yaml
