import WasmLua.Target.Statement

namespace WasmLua.Target

structure Interpretation (ε σ β : Type) where
  act : Action → EStateM ε σ Unit
  test : Test → EStateM ε σ Bool
  yield : List Operand → EStateM ε σ β

inductive Exit (β : Type) where
  | next
  | left
  | finished (value : β)
  | unfinished
deriving DecidableEq, Repr

abbrev Flag := Option Nat

variable {ε σ β : Type}

def Exit.outside : Exit β → Exit β
  | .left => .next
  | exit => exit

@[specialize] def repeatBlock (round : Flag → EStateM ε σ (Exit β × Flag)) : Nat → Flag → EStateM ε σ (Exit β × Flag)
  | 0, flag => pure (.unfinished, flag)
  | rounds + 1, flag => do
    match ← round flag with
    | (.next, flag) => repeatBlock round rounds flag
    | (exit, flag) => pure (exit.outside, flag)

def Condition.holds (meaning : Interpretation ε σ β) (condition : Condition) (flag : Flag) : EStateM ε σ Bool :=
  match condition with
  | .value test => meaning.test test
  | .flagIs label => pure (flag == some label)
  | .flagSet => pure flag.isSome

mutual

def Stmt.run (meaning : Interpretation ε σ β) (rounds : Nat) : Stmt → Flag → EStateM ε σ (Exit β × Flag)
  | .act action, flag => do
    meaning.act action
    return (.next, flag)
  | .setFlag label, _ => pure (.next, some label)
  | .clearFlag, _ => pure (.next, none)
  | .leave, flag => pure (.left, flag)
  | .ret values, flag => do return (.finished (← meaning.yield values), flag)
  | .choose arms, flag => Arms.run meaning rounds arms flag
  | .once body, flag => do
    let (exit, flag) ← Block.run meaning rounds body flag
    return (exit.outside, flag)
  | .forever body, flag => repeatBlock (fun flag => Block.run meaning rounds body flag) rounds flag

def Block.run (meaning : Interpretation ε σ β) (rounds : Nat) : Block → Flag → EStateM ε σ (Exit β × Flag)
  | .done, flag => pure (.next, flag)
  | .next first rest, flag => do
    match ← Stmt.run meaning rounds first flag with
    | (.next, flag) => Block.run meaning rounds rest flag
    | other => pure other

def Arms.run (meaning : Interpretation ε σ β) (rounds : Nat) : Arms → Flag → EStateM ε σ (Exit β × Flag)
  | .none, flag => pure (.next, flag)
  | .otherwise body, flag => Block.run meaning rounds body flag
  | .arm condition body rest, flag => do
    if ← condition.holds meaning flag then Block.run meaning rounds body flag
    else Arms.run meaning rounds rest flag

end

end WasmLua.Target
