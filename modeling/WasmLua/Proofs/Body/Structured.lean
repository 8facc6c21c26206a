import Mathlib
import WasmLua.Target.Statement

namespace WasmLua.Wasm

open Target (Atom)

inductive Task where
  | numeric (op : Op)
  | load (access : Load) (offset : UInt32)
  | store (access : Store) (offset : UInt32)
  | memorySize
  | memoryGrow
  | memoryCopy
  | memoryFill
  | globalGet (index : Nat)
  | globalSet (index : Nat)
  | tableGet (table : UInt32)
  | tableSet (table : UInt32)
  | tableGrow (table : UInt32)
  | tableSize (table : UInt32)
  | tableFill (table : UInt32)
  | call (function : Nat)
  | callElement (table : UInt32) (key : Bytes)
deriving DecidableEq, Repr

/-- What constants and tasks mean, the word that a value is to a condition, and what an observer
does when it sees a stack and local variables. -/
structure Semantics (ε S V : Type) where
  constant : Atom → V
  word : V → Int32
  perform : Task → (results : Nat) → List V → EStateM ε S (Vector V results)
  unreachable : ε
  observe : List V → (Nat → V) → S → S
  word_constant : ∀ value, word (constant (.i32 value)) = value
  convert_keeps : ∀ value,
    perform (.numeric (.convert (.convert .f64 .i32 .signed))) 1 [value] = pure #v[value]
  promote_keeps : ∀ value, perform (.numeric (.convert .promote)) 1 [value] = pure #v[value]

structure Surroundings where
  module : Module
  scope : Scope
  results : List ValueType

inductive Effect where
  | nop
  | constant (value : Atom)
  | localGet (index : Nat)
  | localSet (index : Nat)
  | localTee (index : Nat)
  | drop
  | select
  | perform (task : Task) (params results : Nat)
  | branch (label : Int64)
  | branchIf (label : Int64)
  | branchTable (labels : List Int64) (otherwise : Int64)
  | ret
  | unreachable
deriving DecidableEq, Repr

def Instruction.effect? (unit : Surroundings) (instruction : Instruction) : Option Effect := instruction.op?.bind fun op =>
    match op with
    | .unreachable => some .unreachable
    | .nop => some .nop
    | .block | .loop | .ifElse | .elseArm | .endBlock => none
    | .br => some (.branch instruction.label)
    | .brIf => some (.branchIf instruction.label)
    | .brTable => some (.branchTable instruction.labels instruction.default)
    | .ret => some .ret
    | .call => do
      let function ← unit.module.functions[instruction.index.toNat]?
      let type ← unit.scope.type? function.type
      return .perform (.call instruction.index.toNat) type.params.length type.results.length
    | .callIndirect => do
      let type ← unit.scope.type? instruction.index
      return .perform (.callElement instruction.table type.key) (type.params.length + 1) type.results.length
    | .drop => some .drop
    | .select | .selectTyped => some .select
    | .localGet => some (.localGet instruction.index.toNat)
    | .localSet => some (.localSet instruction.index.toNat)
    | .localTee => some (.localTee instruction.index.toNat)
    | .globalGet => some (.perform (.globalGet instruction.index.toNat) 0 1)
    | .globalSet => some (.perform (.globalSet instruction.index.toNat) 1 0)
    | .tableGet => some (.perform (.tableGet instruction.table) 1 1)
    | .tableSet => some (.perform (.tableSet instruction.table) 2 0)
    | .load access => some (.perform (.load access instruction.offset) 1 1)
    | .store access => some (.perform (.store access instruction.offset) 2 0)
    | .memorySize => some (.perform .memorySize 0 1)
    | .memoryGrow => some (.perform .memoryGrow 1 1)
    | .const (.int .i32) => some (.constant (.i32 instruction.i32))
    | .const (.int .i64) => some (.constant (.i64 instruction.i64))
    | .const (.float .f32) => some (.constant (.float instruction.f32))
    | .const (.float .f64) => some (.constant (.float instruction.f64))
    | .intTest _ | .intUnary _ _ | .floatUnary _ _ | .convert _ | .refIsNull =>
      some (.perform (.numeric op) 1 1)
    | .intCompare _ _ | .floatCompare _ _ | .intBinary _ _ | .floatBinary _ _ =>
      some (.perform (.numeric op) 2 1)
    | .refNull => some (.constant .null)
    | .refFunc => some (.constant (.ref instruction.index))
    | .memoryCopy => some (.perform .memoryCopy 3 0)
    | .memoryFill => some (.perform .memoryFill 3 0)
    | .tableGrow => some (.perform (.tableGrow instruction.table) 2 1)
    | .tableSize => some (.perform (.tableSize instruction.table) 0 1)
    | .tableFill => some (.perform (.tableFill instruction.table) 3 0)

structure Config (S V : Type) where
  stack : List V
  locals : Nat → V
  store : S

inductive Result (ε S V : Type) where
  | next (config : Config S V)
  | branch (depth : Nat) (config : Config S V)
  | returned (values : List V) (store : S)
  | trapped (error : ε) (store : S)
  | unfinished (store : S)
  | stuck

section Running

variable {ε S V : Type}

namespace Result

def andThen (result : Result ε S V) (rest : Config S V → Result ε S V) : Result ε S V :=
  match result with
  | .next config => rest config
  | other => other

end Result

namespace Config

def unwind (config : Config S V) (arity height : Nat) : Config S V :=
  { config with
    stack := config.stack.take arity ++ config.stack.drop (config.stack.length - height) }

def top (config : Config S V) (count : Nat) : List V := (config.stack.take count).reverse

def push (config : Config S V) (value : V) : Config S V :=
  { config with stack := value :: config.stack }

def pop (config : Config S V) (rest : V → Config S V → Result ε S V) : Result ε S V :=
  match config.stack with
  | [] => .stuck
  | value :: stack => rest value { config with stack := stack }

def setLocal (config : Config S V) (index : Nat) (value : V) : Config S V :=
  { config with locals := fun i => if i = index then value else config.locals i }

def give (config : Config S V) (results : Nat) : Result ε S V :=
  if config.stack.length < results then .stuck else .returned (config.top results) config.store

def jump (config : Config S V) (label : Int64) : Result ε S V :=
  if label.toInt < 0 then .stuck else .branch label.toInt.toNat config

end Config

def Result.enclosed (result : Result ε S V) (arity height : Nat) : Result ε S V :=
  match result with
  | .branch 0 config =>
    if config.stack.length < arity + height then .stuck else .next (config.unwind arity height)
  | .branch (depth + 1) config => .branch depth config
  | other => other

def repeated (body : Config S V → Result ε S V) (arity height : Nat) : Nat → Config S V → Result ε S V
  | 0, config => .unfinished config.store
  | rounds + 1, config =>
    match body config with
    | .branch 0 config =>
      if config.stack.length < arity + height then .stuck
      else repeated body arity height rounds (config.unwind arity height)
    | .branch (depth + 1) config => .branch depth config
    | other => other

def selected (labels : List Int64) (otherwise : Int64) (index : Int32) : Int64 := labels[index.toUInt32.toNat]?.getD otherwise

def Config.perform (config : Config S V) (meaning : Semantics ε S V) (task : Task) (params results : Nat) : Result ε S V :=
  if config.stack.length < params then .stuck
  else
    match meaning.perform task results (config.top params) config.store with
    | .ok values store =>
      .next ⟨values.toList.reverse ++ config.stack.drop params, config.locals, store⟩
    | .error error store => .trapped error store

def Effect.run (meaning : Semantics ε S V) (unit : Surroundings) (effect : Effect) (config : Config S V) : Result ε S V :=
  match effect with
  | .nop => .next config
  | .constant value => .next (config.push (meaning.constant value))
  | .localGet index => .next (config.push (config.locals index))
  | .localSet index => config.pop fun value config => .next (config.setLocal index value)
  | .localTee index =>
    config.pop fun value config => .next ((config.push value).setLocal index value)
  | .drop => config.pop fun _ config => .next config
  | .select =>
    config.pop fun condition config =>
      config.pop fun second config =>
        config.pop fun first config =>
          .next (config.push (if meaning.word condition = 0 then second else first))
  | .perform task params results => config.perform meaning task params results
  | .branch label => config.jump label
  | .branchIf label =>
    config.pop fun condition config =>
      if meaning.word condition = 0 then .next config else config.jump label
  | .branchTable labels otherwise =>
    config.pop fun index config => config.jump (selected labels otherwise (meaning.word index))
  | .ret => config.give unit.results.length
  | .unreachable => .trapped meaning.unreachable config.store

end Running

/-- Structured code. An instruction that opens a block is kept as a word, which holds its type. -/
inductive Code where
  | done
  | mark (rest : Code)
  | plain (instruction : Instruction) (rest : Code)
  | block (opening : Instruction) (body rest : Code)
  | loop (opening : Instruction) (body rest : Code)
  | guarded (opening : Instruction) (body rest : Code)
  | conditional (opening : Instruction) (first second rest : Code)

/-- The words that code is written in. A mark is no instruction and is written as none. -/
inductive Spells : Code → List (Option Instruction) → Prop where
  | done : Spells .done []
  | mark (rest : Code) (words : List (Option Instruction)) (follow : Spells rest words) :
      Spells (.mark rest) (none :: words)
  | plain (instruction : Instruction) (rest : Code) (words : List (Option Instruction))
      (single : ∀ op ∈ instruction.op?, op ∉ [Op.block, .loop, .ifElse, .elseArm, .endBlock])
      (follow : Spells rest words) : Spells (.plain instruction rest) (some instruction :: words)
  | block (opening closing : Instruction) (body rest : Code) (inner words : List (Option Instruction))
      (opens : opening.op? = some .block) (closes : closing.op? = some .endBlock)
      (inside : Spells body inner) (follow : Spells rest words) :
      Spells (.block opening body rest) (some opening :: (inner ++ some closing :: words))
  | loop (opening closing : Instruction) (body rest : Code) (inner words : List (Option Instruction))
      (opens : opening.op? = some .loop) (closes : closing.op? = some .endBlock)
      (inside : Spells body inner) (follow : Spells rest words) :
      Spells (.loop opening body rest) (some opening :: (inner ++ some closing :: words))
  | guarded (opening closing : Instruction) (body rest : Code)
      (inner words : List (Option Instruction)) (opens : opening.op? = some .ifElse)
      (closes : closing.op? = some .endBlock) (inside : Spells body inner)
      (follow : Spells rest words) :
      Spells (.guarded opening body rest) (some opening :: (inner ++ some closing :: words))
  | conditional (opening middle closing : Instruction) (first second rest : Code)
      (before after words : List (Option Instruction)) (opens : opening.op? = some .ifElse)
      (divides : middle.op? = some .elseArm) (closes : closing.op? = some .endBlock)
      (inside : Spells first before) (other : Spells second after) (follow : Spells rest words) :
      Spells (.conditional opening first second rest)
        (some opening :: (before ++ some middle :: (after ++ some closing :: words)))

namespace Code

def blocks : Code → Nat
  | .done => 0
  | .mark rest => rest.blocks
  | .plain _ rest => rest.blocks
  | .block _ body rest => body.blocks + 1 + rest.blocks
  | .loop _ body rest => body.blocks + 1 + rest.blocks
  | .guarded _ body rest => body.blocks + 1 + rest.blocks
  | .conditional _ first second rest => first.blocks + second.blocks + 1 + rest.blocks

/-- What validation promises beyond the heights of the stack. -/
def Valid (unit : Surroundings) : Code → Prop
  | .done => True
  | .mark rest => rest.Valid unit
  | .plain instruction rest =>
    (instruction.op? = some .brTable → instruction.labels.length ≤ 2 ^ 31) ∧ rest.Valid unit
  | .block _ body rest => body.Valid unit ∧ rest.Valid unit
  | .loop _ body rest => body.Valid unit ∧ rest.Valid unit
  | .guarded opening body rest =>
    (∀ type ∈ opening.blockType? unit.scope, type.params.length = type.results.length) ∧ body.Valid unit ∧ rest.Valid unit
  | .conditional _ first second rest => first.Valid unit ∧ second.Valid unit ∧ rest.Valid unit

instance decidableValid (unit : Surroundings) : (code : Code) → Decidable (code.Valid unit)
  | .done => inferInstanceAs (Decidable True)
  | .mark rest => decidableValid unit rest
  | .plain instruction rest =>
    have := decidableValid unit rest
    inferInstanceAs (Decidable ((instruction.op? = some .brTable → instruction.labels.length ≤ 2 ^ 31) ∧ rest.Valid unit))
  | .block _ body rest | .loop _ body rest =>
    have := decidableValid unit body
    have := decidableValid unit rest
    inferInstanceAs (Decidable (body.Valid unit ∧ rest.Valid unit))
  | .guarded opening body rest =>
    have := decidableValid unit body
    have := decidableValid unit rest
    inferInstanceAs (Decidable ((∀ type ∈ opening.blockType? unit.scope, type.params.length = type.results.length) ∧
        body.Valid unit ∧ rest.Valid unit))
  | .conditional _ first second rest =>
    have := decidableValid unit first
    have := decidableValid unit second
    have := decidableValid unit rest
    inferInstanceAs (Decidable (first.Valid unit ∧ second.Valid unit ∧ rest.Valid unit))

section Running

variable {ε S V : Type} (meaning : Semantics ε S V) (unit : Surroundings) (rounds : Nat)

def enter (opening : Instruction) (config : Config S V) (inside : Signature → Nat → Result ε S V) : Result ε S V :=
  match opening.blockType? unit.scope with
  | none => .stuck
  | some type =>
    if config.stack.length < type.params.length then .stuck
    else inside type (config.stack.length - type.params.length)

def run : Code → Config S V → Result ε S V
  | .done, config => .next config
  | .mark rest, config =>
    rest.run { config with store := meaning.observe config.stack config.locals config.store }
  | .plain instruction rest, config =>
    match instruction.effect? unit with
    | none => .stuck
    | some effect => (effect.run meaning unit config).andThen fun config => rest.run config
  | .block opening body rest, config =>
    (enter unit opening config fun type height =>
      (body.run config).enclosed type.results.length height).andThen fun config => rest.run config
  | .loop opening body rest, config =>
    (enter unit opening config fun type height =>
      repeated (fun config => body.run config) type.params.length height rounds config).andThen fun config => rest.run config
  | .guarded opening body rest, config =>
    (config.pop fun condition config =>
      enter unit opening config fun type height =>
        if meaning.word condition = 0 then .next config
        else (body.run config).enclosed type.results.length height).andThen fun config => rest.run config
  | .conditional opening first second rest, config =>
    (config.pop fun condition config =>
      enter unit opening config fun type height =>
        (if meaning.word condition = 0 then second.run config else first.run config).enclosed type.results.length height).andThen
            fun config => rest.run config

end Running

end Code

inductive Ending (ε S V : Type) where
  | fell (store : S)
  | returned (values : List V) (store : S)
  | trapped (error : ε) (store : S)
  | unfinished (store : S)
  | stuck
deriving DecidableEq, Repr

def Result.ending {ε S V : Type} (results : Nat) : Result ε S V → Ending ε S V
  | .next config =>
    if results = 0 then .fell config.store
    else if config.stack.length < results then .stuck
    else .returned (config.top results) config.store
  | .branch 0 config =>
    if config.stack.length < results then .stuck
    else .returned (config.top results) config.store
  | .branch (_ + 1) _ => .stuck
  | .returned values store => .returned values store
  | .trapped error store => .trapped error store
  | .unfinished store => .unfinished store
  | .stuck => .stuck

end WasmLua.Wasm
