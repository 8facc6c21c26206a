import WasmLua.Exec.Link
import WasmLua.Proofs.Integers.Exact

namespace WasmLua.Exec

variable {ω α β : Type}

namespace Value

def unnamed : Value → Value
  | .pair _ low high => .pair 0 low high
  | value => value

def Alike (value result : Value) : Prop := value.unnamed = result.unnamed

lemma to_number_unnamed {value : Value} : value.unnamed.toNumber = value.toNumber := by
  cases value <;> rfl

lemma halves_unnamed (value : Value) : value.unnamed.halves = value.halves := by
  cases value <;> rfl

lemma arith_unnamed (a b : Value) :
    arith plain signed a.unnamed b.unnamed = arith plain signed a b := by
  cases a <;> cases b <;> rfl

lemma integer_unnamed :
    integer zero type (Link.arith op) a.unnamed b.unnamed = integer zero type (Link.arith op) a b := by
  cases type with
  | i32 =>
    have sum : Numeric.add a.unnamed b.unnamed = Numeric.add a b := arith_unnamed a b
    have difference : Numeric.sub a.unnamed b.unnamed = Numeric.sub a b := arith_unnamed a b
    have residue (value : Value) : I32.unsigned value.unnamed = I32.unsigned value := arith_unnamed value (Numeric.two 32)
    cases op with
    | add => simp only [integer, Link.arith, I32.binary, sum]
    | sub => simp only [integer, Link.arith, I32.binary, difference]
    | mul => simp only [integer, Link.arith, I32.binary, I32.mul, residue]
  | i64 =>
    have lower (value : Value) : Pairing.low (Made.held value.unnamed) = Pairing.low (Made.held value) :=
      congrArg (Prod.fst <$> ·) (halves_unnamed value)
    have upper (value : Value) : Pairing.high (Made.held value.unnamed) = Pairing.high (Made.held value) :=
      congrArg (Prod.snd <$> ·) (halves_unnamed value)
    cases op with
    | add => simp only [integer, Link.arith, I64.binary, I64.add, lower, upper]
    | sub => simp only [integer, Link.arith, I64.binary, I64.sub, lower, upper]
    | mul => simp only [integer, Link.arith, I64.binary, I64.mul, lower, upper]

end Value

namespace Store

def SameSlots (store other : Store ω) : Prop := store.objects.map Object.value = other.objects.map Object.value

lemma slot_eq (same : SameSlots store other) (value : Value) :
    (store.object? value).map Object.value = (other.object? value).map Object.value := by
  cases value with
  | object address =>
    simp only [object?]
    rw [← Array.getElem?_map, ← Array.getElem?_map, same]
  | _ => rfl

end Store

namespace Execution

inductive Ends (related : α → α → Prop) :
    EStateM.Result Raised (Store ω) α → EStateM.Result Raised (Store ω) α → Prop where
  | ok (value result : α) (after final : Store ω) (alike : related value result)
      (same : Store.SameSlots after final) : Ends related (.ok value after) (.ok result final)
  | error (raised : Raised) (after final : Store ω) (same : Store.SameSlots after final) :
      Ends related (.error raised after) (.error raised final)

def Agrees (related : α → α → Prop) (action other : Execution ω α) : Prop :=
  ∀ store second, Store.SameSlots store second → Ends related (action store) (other second)

lemma agrees_bind (related : α → α → Prop) (first : Agrees related action other)
    (follows : ∀ value result, related value result → Agrees alike (next value) (rest result)) :
    Agrees alike (action >>= next) (other >>= rest) := by
  intro store second same
  have ends := first store second same
  simp only [bind, EStateM.bind]
  generalize action store = ran at ends ⊢
  generalize other second = also at ends ⊢
  cases ends with
  | ok value result after final related same => exact follows value result related after final same
  | error raised after final same => exact .error raised after final same

lemma agrees_except (related : α → α → Prop) (alike : ∀ value, related value value) :
    Agrees related (ofExcept result : Execution ω α) (ofExcept result) := by
  intro store second same
  cases result with
  | ok value => exact .ok value value store second (alike value) same
  | error fault => exact .error fault.raised store second same

lemma agrees_make (made : Made) : Agrees Value.Alike (make made : Execution ω Value) (make made) := by
  intro store second same
  cases made with
  | held value => exact .ok value value store second rfl same
  | fresh low high => exact .ok _ _ _ _ rfl same

end Execution

namespace Link

open Execution

lemma global_same (names : Target.Names) (owner : Instance) (index : Nat)
    (same : Store.SameSlots store second) : global names store owner index = global names second owner index := by
  have slot := Store.slot_eq same (owner.globals.getD index .null)
  simp only [global]
  generalize store.object? (owner.globals.getD index .null) = held at slot ⊢
  generalize second.object? (owner.globals.getD index .null) = other at slot ⊢
  cases held <;> cases other <;> simp_all

lemma evaluate_agrees :
    Agrees Value.Alike (evaluate names owner constant : Execution ω Value) (evaluate names owner constant) := by
  induction constant with
  | atom atom => exact agrees_make _
  | global index =>
    intro store second same
    change Ends _ (Execution.ofExcept (global names store owner index) store)
      (Execution.ofExcept (global names second owner index) second)
    rw [global_same names owner index same]
    exact agrees_except Value.Alike (fun _ => rfl) store second same
  | arith type op a b first second =>
    refine agrees_bind _ first fun value result alike => ?_
    refine agrees_bind _ second fun operand other matched => ?_
    refine agrees_bind Eq ?_ fun made _ same => same ▸ agrees_make made
    rw [← Value.integer_unnamed, alike, matched, Value.integer_unnamed]
    exact agrees_except Eq (fun _ => rfl)

lemma offset_agrees (program : Target.Program) (owner : Instance) (constant : Target.Constant) :
    Agrees Eq (offset program owner constant : Execution ω Number) (offset program owner constant) := by
  refine agrees_bind _ evaluate_agrees fun value result alike => ?_
  rw [← Value.to_number_unnamed, alike, Value.to_number_unnamed]
  exact agrees_except Eq (fun _ => rfl)

end Link

end WasmLua.Exec
