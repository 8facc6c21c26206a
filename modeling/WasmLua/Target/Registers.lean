import WasmLua.Target.Printer

namespace WasmLua.Target

def registerLimit : Nat := 200

def abreast (start : Nat) : List Nat → Nat
  | [] => 0
  | width :: rest => max (start + width) (abreast (start + 1) rest)

def callWidth (args : List Nat) : Nat := max 1 (abreast 1 args)

def inTurn (start : Nat) : List Nat → Nat
  | [] => 0
  | 0 :: rest => inTurn start rest
  | width :: rest => max (start + width) (inTurn (start + 1) rest)

namespace Atom

def width : Atom → Nat
  | .i64 value => if value == 0 then 1 else callWidth [1, 1]
  | _ => 1

def assigned : Atom → Nat
  | .i64 value => if value == 0 then 0 else callWidth [1, 1]
  | .float (.infinity true) => 1
  | _ => 0

def used : Atom → Nat
  | .i32 _ => 0
  | .float (.finite _) => 0
  | value => value.width

def isNumeral : Atom → Bool
  | .i32 value => 0 ≤ value
  | .float (.finite value) => 0 ≤ value
  | _ => false

end Atom

namespace Constant

def width : Constant → Nat
  | .atom value => value.width
  | .global _ => 1
  | .arith _ _ a b => callWidth [a.width, b.width]

end Constant

namespace Naming

def isVariable (naming : Naming) : Operand → Bool
  | .slot _ => !naming.spilled
  | .local index => !naming.spilled || index < naming.params
  | .atom _ => false

def width : Operand → Nat
  | .atom value => value.width
  | _ => 1

def assigned : Operand → Nat
  | .atom value => value.assigned
  | _ => 0

def used (naming : Naming) (operand : Operand) : Nat :=
  match operand with
  | .atom value => value.used
  | _ => if naming.isVariable operand then 0 else 1

def usedUnsigned (naming : Naming) : Operand → Nat
  | .atom value => if value.isNumeral then 0 else max 1 value.used
  | operand => max 1 (naming.used operand)

def comparisonWidth (a b : Nat) : Nat := max 1 (inTurn 0 [a, b])

def unaryWidth (naming : Naming) (op : Unary) (a : Operand) : Nat :=
  let call := callWidth [width a]
  match op with
  | .intTest .i32 => comparisonWidth (naming.used a) 0
  | .isNull => comparisonWidth (naming.used a) 1
  | .float .f32 op => if roundsUnary op then callWidth [call] else call
  | _ => call

def binaryWidth (naming : Naming) (op : Binary) (a b : Operand) : Nat :=
  let call := callWidth [width a, width b]
  match op with
  | .intCompare .i32 op =>
    match compareOf op with
    | (_, .signed) => comparisonWidth (naming.used a) (naming.used b)
    | (_, .unsigned) => comparisonWidth (naming.usedUnsigned a) (naming.usedUnsigned b)
  | .floatCompare _ _ => comparisonWidth (naming.used a) (naming.used b)
  | .float .f32 op => if roundsBinary op then callWidth [call] else call
  | _ => call

def computationWidth (naming : Naming) : Computation → Nat
  | .unary op a => naming.unaryWidth op a
  | .binary op a b => naming.binaryWidth op a b
  | .load _ address _ => callWidth [1, width address, 1]
  | .memorySize => 1
  | .memoryGrow delta => callWidth [1, width delta]
  | .global index => if naming.spilled || naming.names.isCell index then 1 else 0
  | .tableGet _ index => callWidth [1, width index]
  | .tableGrow _ value delta => callWidth [1, width value, width delta]
  | .tableSize _ => callWidth [1]

def calleeWidth (args : List Nat) : Callee → Nat
  | .defined _ => callWidth (1 :: args)
  | .imported _ => callWidth args
  | .element _ index _ => max (callWidth [1, width index, 1]) (callWidth args)

def moveWidth (start : Nat) : List Operand → Nat
  | [] => 0
  | [value] => start + assigned value
  | value :: rest => max (start + width value) (moveWidth (start + 1) rest)

def assignWidth (naming : Naming) (target value : Operand) : Nat :=
  if naming.isVariable target then assigned value else naming.used value

def actionWidth (naming : Naming) : Action → Nat
  | .setSlot slot value => naming.assignWidth (.slot slot) value
  | .setLocal index value => naming.assignWidth (.local index) value
  | .move pairs =>
    if naming.spilled then inTurn 0 (pairs.map fun pair => naming.used pair.2)
    else moveWidth 0 (pairs.map Prod.snd)
  | .compute _ value => naming.computationWidth value
  | .call _ results callee args => max results (calleeWidth (args.map width) callee)
  | .store _ address _ value => callWidth [1, width address, 1, width value]
  | .setGlobal index value =>
    if naming.names.isCell index then max 1 (1 + naming.used value) else naming.used value
  | .tableSet _ index value => callWidth [1, width index, width value]
  | .tableFill _ index value count => callWidth [1, width index, width value, width count]
  | .memoryCopy target source count =>
    callWidth [1, 1, width target, width source, width count]
  | .memoryFill target value count => callWidth [1, width target, width value, width count]
  | .unreachable => callWidth [1]

def testWidth (naming : Naming) : Test → Nat
  | .nonzero value => naming.used value
  | .zero value => naming.used value
  | .equals value _ => naming.used value
  | .between value _ _ => naming.used value

def conditionWidth (naming : Naming) : Condition → Nat
  | .value test => naming.testWidth test
  | .flagIs _ => 0
  | .flagSet => 0

def returnWidth (naming : Naming) : List Operand → Nat
  | [value] => if naming.isVariable value then 0 else width value
  | values => abreast 0 (values.map width)

end Naming

mutual

def Stmt.width (naming : Naming) : Stmt → Nat
  | .act action => naming.actionWidth action
  | .setFlag _ => 0
  | .clearFlag => 0
  | .leave => 0
  | .ret values => naming.returnWidth values
  | .choose arms => arms.width naming
  | .once body => body.width naming
  | .forever body => body.width naming

def Block.width (naming : Naming) : Block → Nat
  | .done => 0
  | .next first rest => max (first.width naming) (rest.width naming)

def Arms.width (naming : Naming) : Arms → Nat
  | .none => 0
  | .otherwise body => body.width naming
  | .arm condition body rest =>
    max (naming.conditionWidth condition) (max (body.width naming) (rest.width naming))

end

inductive RegisterFault where
  | parameters
  | variables
  | values
deriving DecidableEq, Repr

def RegisterFault.text : RegisterFault → String
  | .parameters => "register overflow"
  | .variables => "too many local variables"
  | .values => "register overflow(too many local variables)"

def registerFault? (params count above : Nat) : Option RegisterFault :=
  if registerLimit < params then some .parameters
  else if registerLimit < count then some .variables
  else if registerLimit < max (params + 1) (count + above) then some .values
  else none

namespace Function

def variableCount (function : Function) : Nat :=
  let held :=
    if function.spilled then
      (if function.locals.isEmpty then 0 else 1) + (if function.slots = 0 then 0 else 1)
    else function.locals.length + function.slots
  1 + function.params + held + if function.usesFlag then 1 else 0

def registerFault? (function : Function) (names : Names) : Option RegisterFault :=
  Target.registerFault? (1 + function.params) function.variableCount (function.body.width (function.naming names))

end Function

structure Refusal where
  line : Nat
  fault : RegisterFault
deriving DecidableEq, Repr

def Refusal.message (refusal : Refusal) (name : Bytes) : Bytes :=
  Bytes.ofString s!"compile error near line({refusal.line}) " ++ name ++ Bytes.ofString (": " ++ refusal.fault.text)

namespace Program

def globalsWidth (program : Program) : Nat := (program.globals.zipIdx.map fun
    | (.imported _, _) => callWidth [1, 1, 1]
    | (.created value, index) => (if program.isCell index then 1 else 0) + value.width).foldl max 0

def checksWidth (program : Program) : Nat :=
  let offsets := program.elements.map (·.offset) ++ program.data.map (·.offset)
  (offsets.map fun offset => callWidth [1, offset.width, 1]).foldl max 0

def registerFaults (program : Program) : List (Option RegisterFault) :=
  [none, none, none, none, Target.registerFault? 2 2 program.globalsWidth, Target.registerFault? 1 1 program.checksWidth, none]
    ++ program.functions.map (·.registerFault? program.toNames)

def routineLine (program : Program) (routine : Nat) : Nat :=
  let front := Prelude.text ++ Prelude.publish program.namePrefix
  let routines := program.setupRoutines ++ program.functions.map (·.lines program.toNames)
  front.toList.count '\n' + (routines.take routine).flatten.length + 1

def refusal? (program : Program) : Option Refusal :=
  (program.registerFaults.zipIdx.findSome? fun (fault, routine) => fault.map (·, routine)).map
    fun (fault, routine) => ⟨program.routineLine routine, fault⟩

end Program

end WasmLua.Target
