import WasmLua.Compile.Error
import WasmLua.Target.Statement

namespace WasmLua.Compile

open Target (Operand Stmt)

structure Entry where
  type : Wasm.ValueType
  deferred : Option Operand
deriving DecidableEq, Repr

structure Taken where
  type : Wasm.ValueType
  operand : Operand
deriving DecidableEq, Repr

def Taken.constant? : Taken → Option Int32
  | ⟨.i32, .atom (.i32 value)⟩ => some value
  | _ => none

def Entry.operand (entry : Entry) (below : Nat) : Operand := entry.deferred.getD (.slot below)

structure Comparison where
  isSlot : Operand → Nat → Bool
  isLocal : Operand → Nat → Bool

namespace Comparison

def structural : Comparison := ⟨fun operand slot => operand == .slot slot, fun operand index => operand == .local index⟩

@[simp] theorem structural_slot (operand : Operand) (slot : Nat) : structural.isSlot operand slot = (operand == .slot slot) := rfl

@[simp] theorem structural_local (operand : Operand) (index : Nat) : structural.isLocal operand index = (operand == .local index) := rfl

end Comparison

abbrev ValueStack := List Entry

namespace ValueStack

def operands : ValueStack → List Operand
  | [] => []
  | entry :: rest => entry.operand rest.length :: operands rest

def top (stack : ValueStack) (count : Nat) : List Operand := ((operands stack).take count).reverse

def trim (stack : ValueStack) (height : Nat) : ValueStack := stack.drop (stack.length - height)

def materialize (select : Nat → Operand → Bool) : ValueStack → List Stmt × ValueStack
  | [] => ([], [])
  | entry :: rest =>
    let (code, below) := materialize select rest
    match entry.deferred with
    | some operand =>
      if select rest.length operand then
        (code ++ [.act (.setSlot rest.length operand)], ⟨entry.type, none⟩ :: below)
      else (code, entry :: below)
    | none => (code, entry :: below)

def moves (target : Nat) (operands : List Operand) (same : Comparison := .structural) : List Stmt :=
  match (operands.mapIdx fun i operand => (target + i, operand)).filter
      fun (slot, operand) => !same.isSlot operand slot with
  | [] => []
  | pairs => [.act (.move pairs)]

end ValueStack

end WasmLua.Compile
