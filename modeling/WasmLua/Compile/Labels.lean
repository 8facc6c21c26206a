import WasmLua.Compile.Error

namespace WasmLua.Compile

structure Labels where
  opened : List Nat
  next : Nat
  targeted : List Nat
  used : List UInt32
deriving DecidableEq, Repr

namespace Labels

def initial : Labels := ⟨[0], 1, [], []⟩

def target (labels : Labels) (depth : Int64) : Except StackFault Labels :=
  if depth.toInt < 0 then throw (.branchDepth depth)
  else
    match labels.opened[depth.toInt.toNat]? with
    | none => throw (.branchDepth depth)
    | some 0 => return labels
    | some label => return { labels with targeted := labels.targeted.insert label }

def step (labels : Labels) (instruction : Wasm.Instruction) : Except StackFault Labels :=
  match instruction.op? with
  | some .block | some .loop | some .ifElse =>
    return { labels with opened := labels.next :: labels.opened, next := labels.next + 1 }
  | some .endBlock =>
    match labels.opened with
    | [] => throw .unbalancedEnd
    | _ :: opened => return { labels with opened := opened }
  | some .br | some .brIf => labels.target instruction.label
  | some .brTable => do
    let labels ← instruction.labels.foldlM target labels
    labels.target instruction.default
  | some .localGet | some .localSet | some .localTee =>
    return { labels with used := labels.used.insert instruction.index }
  | _ => return labels

def scan : Nat → Labels → List Wasm.Instruction → Except (Nat × StackFault) Labels
  | _, labels, [] => .ok labels
  | offset, labels, instruction :: rest =>
    match labels.step instruction with
    | .ok labels => scan (offset + 1) labels rest
    | .error fault => .error (offset, fault)

def ofBody (body : List Wasm.Instruction) : Except (Nat × StackFault) Labels := scan 0 initial body

end Labels

end WasmLua.Compile
