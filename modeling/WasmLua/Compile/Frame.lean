import WasmLua.Compile.Stack

namespace WasmLua.Compile

open Target (Operand Stmt Block Arms)

inductive FrameKind where
  | function
  | block
  | loop
  | conditional (condition : Operand)
deriving DecidableEq, Repr

structure Frame where
  kind : FrameKind
  label : Nat
  height : Nat
  params : List Wasm.ValueType
  results : List Wasm.ValueType
  lowered : Bool
  flagSelf : Bool
  escapes : Bool
  branched : Bool
  thenArm : Option (Block × Bool)
  unreachable : Bool
  code : List Stmt

namespace Frame

def opening (kind : FrameKind) (label height : Nat) (type : Wasm.Signature) (lowered : Bool) : Frame :=
  ⟨kind, label, height, type.params, type.results, lowered, false, false, false, none, false, []⟩

def isLoop (frame : Frame) : Bool := frame.kind matches .loop

def isFunction (frame : Frame) : Bool := frame.kind matches .function

def arity (frame : Frame) : Nat :=
  if frame.isLoop then frame.params.length else frame.results.length

def body (frame : Frame) : Block := .ofList frame.code.reverse

def passOn : Stmt := .choose (.arm .flagSet (.ofList [.leave]) .none)

def afterBlock (frame : Frame) : List Stmt :=
  match frame.flagSelf, frame.escapes with
  | true, true =>
    [.choose (.arm (.flagIs frame.label) (.ofList [.clearFlag]) (.arm .flagSet (.ofList [.leave]) .none))]
  | true, false => [.clearFlag]
  | false, true => [passOn]
  | false, false => []

def again (frame : Frame) : Stmt :=
  if frame.flagSelf then
    .choose (.arm (.flagIs frame.label) (.ofList [.clearFlag]) (.otherwise (.ofList [.leave])))
  else .leave

def breakable (frame : Frame) (code : List Stmt) : List Stmt :=
  if frame.lowered then .once (.ofList code) :: frame.afterBlock else code

def close (frame : Frame) : List Stmt :=
  match frame.kind with
  | .function => frame.code.reverse
  | .block => frame.breakable frame.code.reverse
  | .conditional condition =>
    frame.breakable [.choose (match frame.thenArm with
      | some (first, _) => .arm (.value (.nonzero condition)) first (.otherwise frame.body)
      | none => .arm (.value (.nonzero condition)) frame.body .none)]
  | .loop =>
    if frame.lowered then
      .forever (.ofList [.once frame.body, frame.again]) :: if frame.escapes then [passOn] else []
    else frame.code.reverse

def continues (frame : Frame) : Bool := !frame.unreachable ||
    match frame.kind with
    | .function => false
    | .loop => false
    | .block => frame.branched
    | .conditional _ =>
      frame.branched ||
        match frame.thenArm with
        | some (_, reachable) => reachable
        | none => true

end Frame

end WasmLua.Compile
