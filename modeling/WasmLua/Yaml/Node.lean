import WasmLua.Yaml.Token

namespace WasmLua.Yaml

inductive Tag where
  | null
  | bool
  | int
  | float
  | timestamp
  | text
  | binary
  | merge
  | other
deriving DecidableEq, Repr

namespace Tag

def standardStart : Bytes := Bytes.ofString "tag:yaml.org,2002:"

def standard : List (String × Tag) :=
  [("null", .null), ("bool", .bool), ("int", .int), ("float", .float), ("timestamp", .timestamp),
    ("str", .text), ("binary", .binary), ("merge", .merge)]

def ofName? (name : Bytes) : Option Tag :=
  if name == Bytes.ofString "!" then none
  else
    let found := standard.find? fun (short, _) =>
      name == standardStart ++ Bytes.ofString short || name == Bytes.ofString ("!!" ++ short)
    some ((found.map (·.2)).getD .other)

end Tag

inductive Node where
  | scalar (style : Style) (tag : Option Tag) (text : String)
  | sequence (items : List Node)
  | mapping (entries : List (Node × Node))
  | reference (name : String) (place : Nat)

namespace Node

def absent : Node := .scalar .plain none ""

instance : Inhabited Node := ⟨absent⟩

end Node

structure Document where
  root : Node
  named : Array Node
  size : Nat

namespace Document

def target (document : Document) : Node → Node
  | .reference _ place => (document.named[place]?).getD .absent
  | node => node

end Document

end WasmLua.Yaml
