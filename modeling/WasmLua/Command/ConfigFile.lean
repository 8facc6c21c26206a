import WasmLua.Command.Settings
import WasmLua.Exec.HostValue
import WasmLua.Yaml.Document
import WasmLua.Yaml.Resolve

namespace WasmLua.Command.ConfigFile

open Yaml

def text? : Node → Option (Option Bytes)
  | .scalar style tag text =>
    match resolve? style tag text with
    | none => none
    | some .null => some none
    | some (.text value) => some (some value)
    | some _ => some (some (Bytes.ofString text))
  | _ => none

def truth? (text : Bytes) : Option Bool :=
  let isOneOf (words : List String) : Bool := words.any (Bytes.ofString · == text)
  if isOneOf ["y", "Y", "yes", "Yes", "YES", "on", "On", "ON"] then some true
  else if isOneOf ["n", "N", "no", "No", "NO", "off", "Off", "OFF"] then some false
  else none

def bool? : Node → Option (Option Bool)
  | .scalar style tag text =>
    match resolve? style tag text with
    | some .null => some none
    | some (.bool value) => some (some value)
    | some (.text value) => (truth? value).map some
    | _ => none
  | _ => none

def word? : Node → Option (Option UInt32)
  | .scalar style tag text =>
    let within (value : Nat) : Option (Option UInt32) :=
      if value < 0x100000000 then some (some (UInt32.ofNat value)) else none
    match resolve? style tag text with
    | some .null => some none
    | some (.int value) => if 0 ≤ value then within value.toNat else none
    | some (.float value) =>
      if value.le (.ofInt 0x10000000000000000) then within value.toUInt64.toNat else none
    | _ => none
  | _ => none

def sameKey : Node → Node → Bool
  | .scalar _ _ a, .scalar _ _ b => a == b
  | .sequence _, .sequence _ => true
  | .mapping _, .mapping _ => true
  | .reference a _, .reference b _ => a == b
  | _, _ => false

def distinct : List (Node × Node) → Bool
  | [] => true
  | (key, _) :: rest => !rest.any (fun entry => sameKey key entry.1) && distinct rest

def isMerge : Node → Bool
  | .scalar style tag text => text == "<<" && (tag == some .merge || (tag == none && style == .plain))
  | _ => false

inductive Field where
  | namePrefix
  | debugNames
  | maxPages
  | maxElements
  | verbose
deriving DecidableEq

def Field.ofName? (name : Bytes) : Option Field :=
  [("namePrefix", Field.namePrefix), ("debugNames", .debugNames), ("maxMemoryPages", .maxPages),
    ("maxTableElements", .maxElements), ("verbose", .verbose)].findSome?
      fun (text, field) => if Bytes.ofString text == name then some field else none

def Field.set? (field : Field) (value : Node) (settings : Settings) : Option Settings :=
  match field with
  | .namePrefix => do return { settings with namePrefix := (← text? value).getD settings.namePrefix }
  | .debugNames => do return { settings with debugNames := ← bool? value }
  | .maxPages => do return { settings with maxPages := (← word? value).getD settings.maxPages }
  | .maxElements => do return { settings with maxElements := (← word? value).getD settings.maxElements }
  | .verbose => do return { settings with verbose := ← bool? value }

structure Progress where
  settings : Settings
  taken : Option (List Bytes)
  fields : List Field

namespace Progress

def enter (document : Document) (progress : Progress) (key value : Node) : Option Progress := do
  match ← text? (document.target key) with
  | none => return progress
  | some name =>
    if (progress.taken.map (·.contains name)).getD false then return progress
    else
      let progress := { progress with taken := progress.taken.map (name :: ·) }
      match Field.ofName? name with
      | none => return progress
      | some field =>
        if progress.fields.contains field then none
        else
          let settings ← field.set? (document.target value) progress.settings
          return { progress with settings, fields := field :: progress.fields }

end Progress

def names (document : Document) (entries : List (Node × Node)) : List Bytes := entries.filterMap fun (key, _) =>
    match document.target key with
    | .scalar style tag text =>
      match resolve? style tag text with
      | some (.text name) => some name
      | _ => none
    | _ => none

def sources? (document : Document) (value : Node) : Option (List (List (Node × Node))) :=
  let entries? (node : Node) : Option (List (Node × Node)) :=
    match document.target node with
    | .mapping entries => some entries
    | _ => none
  match value with
  | .sequence items => items.mapM entries?
  | node => (entries? node).map ([·])

def enterAll (document : Document) : Nat → Option (List Bytes) → Settings → List (Node × Node) → Option (Settings × Option (List Bytes))
  | 0, _, _, _ => none
  | fuel + 1, taken, settings, entries => do
    if !distinct entries then none
    else
      let own := entries.filter fun entry => !isMerge entry.1
      let progress ← own.foldlM (fun progress (key, value) => progress.enter document key value) (Progress.mk settings taken [])
      match entries.find? (isMerge ·.1) with
      | none => return (progress.settings, progress.taken)
      | some (_, value) =>
        let taken := progress.taken.getD (names document entries)
        let (settings, after) ← (← sources? document value).foldlM
          (fun (settings, taken) entries => enterAll document fuel taken settings entries)
          (progress.settings, some taken)
        return (settings, progress.taken.bind fun _ => after)

def settings? (content : Bytes) : Option Settings := do
  let document ← Document.parse? content
  match document.root with
  | .mapping entries =>
    return (← enterAll document ((document.size + 1) * (document.size + 1)) none .unset entries).1
  | .scalar style tag text =>
    match resolve? style tag text with
    | some .null => return .unset
    | _ => none
  | _ => none

end WasmLua.Command.ConfigFile
