import WasmLua.Command.Configuration
import WasmLua.Text.Lowercase

namespace WasmLua.Command

inductive Name where
  | compile
  | stats
  | run
  | help
  | complete
deriving DecidableEq, Repr

namespace Name

def text : Name → String
  | .compile => "compile"
  | .stats => "stats"
  | .run => "run"
  | .help => "help"
  | .complete => "__complete"

def texts : Name → List String
  | .complete => [complete.text, "__completeNoDesc"]
  | name => [name.text]

def ofText? (text : Bytes) : Option Name := [compile, stats, run, help, complete].find? fun name =>
    name.texts.any fun own => Bytes.ofString own == text

end Name

namespace Dispatch

def takesNext (flags : List Flag) (arg : Bytes) : Bool :=
  let switch (flag : Option Flag) : Bool :=
    match flag with
    | some flag => flag.kind = .switch
    | none => false
  if arg.contains Flags.equals then false
  else match arg with
    | first :: second :: rest =>
      if first != Flags.dash then false
      else if second == Flags.dash then !switch (Flags.named? flags rest)
      else rest.isEmpty && !switch (Flags.lettered? flags second)
    | _ => false

def words (flags : List Flag) : List Bytes → List Bytes
  | [] => []
  | arg :: rest =>
    if arg == [Flags.dash, Flags.dash] then []
    else if takesNext flags arg then
      match rest with
      | _ :: next :: more => words flags (next :: more)
      | _ => []
    else if arg.isEmpty || arg.head? == some Flags.dash then words flags rest
    else arg :: words flags rest

def nextRow (c : UInt8) (diagonal left : Nat) : Bytes → List Nat → List Nat
  | d :: text, up :: row =>
    let value := if c == d then diagonal else min up (min left diagonal) + 1
    value :: nextRow c up value text row
  | _, _ => []

def distance (a b : Bytes) : Nat :=
  let start := List.range (b.length + 1)
  let final := a.foldl (fun row c =>
    match row with
    | [] => []
    | first :: rest => (first + 1) :: nextRow c first (first + 1) b rest) start
  final.getLast?.getD 0

def similar (typed : Bytes) : List String := ([Name.compile, .stats, .run].filter fun name =>
    let text := Bytes.ofString name.text
    let typed := Lowercase.bytes typed
    distance typed text ≤ 2 || typed.isPrefixOf text).map Name.text

def without (word : Bytes) : List Bytes → List Bytes
  | [] => []
  | arg :: rest => if arg == word then rest else arg :: without word rest

def find (args : List Bytes) : Except Error (Option Name × List Bytes) :=
  match words Configuration.flags args with
  | [] => .ok (none, args)
  | word :: _ =>
    match Name.ofText? word with
    | some name => .ok (some name, without word args)
    | none => .error (.unknownCommand word (similar word))

def flags : Option Name → List Flag
  | some .compile => Configuration.flags ++ [⟨"help", some 'h', .switch⟩, ⟨"out", some 'o', .text⟩]
  | some _ => Configuration.flags ++ [⟨"help", some 'h', .switch⟩]
  | none => Configuration.flags ++ [⟨"help", some 'h', .switch⟩, ⟨"version", none, .switch⟩]

inductive Task where
  | inform
  | complete
  | perform (name : Name) (given : Given)

def parsed (name : Option Name) (args : List Bytes) : Except Error Task := do
  let given ← (Flags.parse (flags name) args).mapError .flag
  match name with
  | none => return .inform
  | some .help => return .inform
  | some name =>
    if given.switch? "help" == some true then return .inform else return .perform name given

def task (args : List Bytes) : Except Error Task := do
  match ← find args with
  | (some .complete, []) => throw (.tooFewArguments 1 0)
  | (some .complete, _ :: _) => return .complete
  | (name, rest) => parsed name rest

end Dispatch

end WasmLua.Command
