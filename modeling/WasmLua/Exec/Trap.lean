namespace WasmLua.Exec

inductive Trap where
  | unreachable
  | integerDivideByZero
  | integerOverflow
  | invalidConversion
  | outOfBoundsMemory
  | outOfBoundsTable
  | undefinedElement
  | uninitializedElement
  | callTypeMismatch
  | callStackExhausted
deriving DecidableEq, Repr

def Trap.text : Trap → String
  | .unreachable => "unreachable"
  | .integerDivideByZero => "integer divide by zero"
  | .integerOverflow => "integer overflow"
  | .invalidConversion => "invalid conversion to integer"
  | .outOfBoundsMemory => "out of bounds memory access"
  | .outOfBoundsTable => "out of bounds table access"
  | .undefinedElement => "undefined element"
  | .uninitializedElement => "uninitialized element"
  | .callTypeMismatch => "indirect call type mismatch"
  | .callStackExhausted => "call stack exhausted"

inductive Fault where
  | trap (kind : Trap)
  | operand
  | negation
  | place
deriving DecidableEq, Repr

end WasmLua.Exec
