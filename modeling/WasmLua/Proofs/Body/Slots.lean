import WasmLua.Compile.Stack
import WasmLua.Proofs.Body.Machine

namespace WasmLua.Compile

open List
open Target (Action Atom Block Flag Interpretation Machine Operand Stmt machineMeaning)
open Wasm (Config Semantics)

variable {ε S V : Type}

def probe : Action := .move []

/-- How statements are watched: what they mean for every flag, with the plain meaning while it is not
set, and the rounds that loops are given. -/
structure View (meaning : Semantics ε S V) where
  seen : Flag → Interpretation ε (Machine S V) (List V)
  rounds : Nat
  acts : ∀ action, action ≠ probe → (seen none).act action = Target.act meaning action
  tests : (seen none).test = (machineMeaning meaning).test
  yields : (seen none).yield = (machineMeaning meaning).yield

namespace View

variable {meaning : Semantics ε S V}

def watch (view : View meaning) (code : List Stmt) (flag : Flag) (machine : Machine S V) :
    EStateM.Result ε (Machine S V) (Target.Exit (List V) × Flag) :=
  (Block.ofList code).watch view.seen view.rounds flag machine

lemma watch_append (view : View meaning) (first second : List Stmt) (machine : Machine S V) :
    view.watch (first ++ second) none machine = Target.follow (view.watch first none machine) (view.watch second) :=
  Target.watch_append view.seen view.rounds first second none machine

def Leads (view : View meaning) (code : List Stmt) (before after : Machine S V) : Prop :=
  view.watch code none before = .ok (.next, none) after

variable (view : View meaning)

lemma leads_nil (machine : Machine S V) : view.Leads [] machine machine := rfl

lemma leads_append (first second : List Stmt) (a b c : Machine S V)
    (before : view.Leads first a b) (after : view.Leads second b c) : view.Leads (first ++ second) a c := by
  unfold Leads watch at *
  rw [Target.watch_append, before]
  exact after

lemma watch_act (action : Action) (machine : Machine S V) (emitted : action ≠ probe) : view.watch [.act action] none machine =
      match Target.act meaning action machine with
      | .ok _ machine => .ok (.next, none) machine
      | .error error machine => .error error machine := by
  rw [watch, Target.watch_single, Target.Stmt.watch, view.acts action emitted]
  cases Target.act meaning action machine <;> rfl

lemma leads_act (action : Action) (before after : Machine S V)
    (emitted : action ≠ probe) (done : Target.act meaning action before = .ok () after) :
    view.Leads [.act action] before after := by
  rw [Leads, watch_act view action before emitted, done]

lemma watch_test {view : View meaning} {test : Target.Test} {code : List Stmt} {arms : Target.Arms}
    {machine : Machine S V} : view.watch [.choose (.arm (.value test) (.ofList code) arms)] none machine =
      if machine.holds meaning test then view.watch code none machine
      else arms.watch view.seen view.rounds none machine := by
  have tested : (Target.Condition.value test).holds (view.seen none) none machine = .ok (machine.holds meaning test) machine := by
    rw [Target.Condition.holds, view.tests]
    rfl
  rw [watch, Target.watch_single, Target.Stmt.watch, Target.Arms.watch, tested]
  cases machine.holds meaning test <;> rfl

end View

def held (machine : Machine S V) : Nat → List V
  | 0 => []
  | count + 1 => machine.slots count :: held machine count

lemma held_congr {first second : Machine S V} {count : Nat} (same : ∀ slot < count, second.slots slot = first.slots slot) :
    held second count = held first count := by
  induction count with
  | zero => rfl
  | succ count ih =>
    rw [held, held, same count (Nat.lt_succ_self count)]
    rw [ih fun slot below => same slot (Nat.lt_succ_of_lt below)]

lemma held_assign (machine : Machine S V) (slot : Nat) (values : List V) :
    held (machine.assign slot values) (slot + values.length) = values.reverse ++ held machine slot := by
  -- The values are taken off from the last one, which the highest slot holds.
  have taken : ∀ count ≤ values.length, held (machine.assign slot values) (slot + count)
        = (values.take count).reverse ++ held machine slot := by
    intro count
    induction count with
    | zero =>
      intro _
      apply held_congr
      intro other below
      simp only [Machine.assign, if_pos (show other < slot from below)]
    | succ count ih =>
      intro within
      have access : values[count]? = some values[count] := getElem?_eq_getElem within
      have above : ¬ slot + count < slot := by omega
      have top : (machine.assign slot values).slots (slot + count) = values[count] := by
        simp [Machine.assign, access, above]
      rw [← Nat.add_assoc, held, ih (by omega), top, take_add_one, access, Option.toList_some, reverse_append]
      rfl
  simpa using taken values.length (Nat.le_refl _)

namespace ValueStack

/-- A deferred entry that is read from a slot is read from its own. -/
def Settled : ValueStack → Prop
  | [] => True
  | entry :: rest => (∀ slot, entry.deferred = some (.slot slot) → slot = rest.length) ∧ Settled rest

def Fixed (height : Nat) : ValueStack → Prop
  | [] => True
  | entry :: rest => (rest.length < height → entry.deferred = none) ∧ Fixed height rest

def Cleared (select : Nat → Operand → Bool) : ValueStack → Prop
  | [] => True
  | entry :: rest =>
    (∀ operand, entry.deferred = some operand → select rest.length operand = false) ∧ Cleared select rest

def values (meaning : Semantics ε S V) (machine : Machine S V) (stack : ValueStack) : List V :=
  stack.operands.map (machine.read meaning)

variable {stack : ValueStack}

lemma operands_length : stack.operands.length = stack.length := by
  induction stack with
  | nil => rfl
  | cons entry rest ih => rw [operands, length_cons, length_cons, ih]

variable {count slot : Nat} {machine : Machine S V} {types : List Wasm.ValueType}

lemma operands_drop (stack : ValueStack) : operands (stack.drop count) = stack.operands.drop count := by
  induction count generalizing stack with
  | zero => rfl
  | succ count ih =>
    cases stack with
    | nil => rfl
    | cons entry rest => exact ih rest

lemma values_length (meaning : Semantics ε S V) (machine : Machine S V) (stack : ValueStack) :
    (stack.values meaning machine).length = stack.length := by
  rw [values, length_map, operands_length]

variable {meaning : Semantics ε S V}

lemma values_drop :
    values meaning machine (stack.drop count) = (stack.values meaning machine).drop count := by
  rw [values, operands_drop, map_drop, values]

lemma top_values (meaning : Semantics ε S V) (machine : Machine S V) (count : Nat) (stack : ValueStack) :
    (stack.top count).map (machine.read meaning) = ((stack.values meaning machine).take count).reverse := by
  rw [top, map_reverse, map_take, values]

lemma top_add {first second : Nat} :
    stack.top (first + second) = top (stack.drop first) second ++ stack.top first := by
  rw [top, take_add, reverse_append, ← operands_drop]
  rfl

variable {entry : Entry} {below height : Nat} {stack entries : ValueStack}

section

variable (meaning : Semantics ε S V) (first second : Machine S V)

lemma read_congr
    (settled : ∀ slot, entry.deferred = some (.slot slot) → slot = below) (slot : second.slots below = first.slots below)
    (locals : ∀ index, entry.deferred = some (.local index) → second.locals index = first.locals index) :
    second.read meaning (entry.operand below) = first.read meaning (entry.operand below) := by
  unfold Entry.operand
  cases deferred : entry.deferred with
  | none => exact slot
  | some operand =>
    cases operand with
    | slot place =>
      rw [settled place deferred]
      exact slot
    | «local» index => exact locals index deferred
    | atom value => rfl

lemma values_congr (settled : Settled stack)
    (slots : ∀ slot < stack.length, second.slots slot = first.slots slot)
    (locals : ∀ entry ∈ stack, ∀ index, entry.deferred = some (.local index) → second.locals index = first.locals index) :
    stack.values meaning second = stack.values meaning first := by
  induction stack with
  | nil => rfl
  | cons entry rest ih =>
    have here := read_congr meaning first second settled.1 (slots rest.length (Nat.lt_succ_self _)) (locals entry mem_cons_self)
    have below := ih settled.2 (fun slot less => slots slot (Nat.lt_succ_of_lt less))
      fun other member => locals other (mem_cons_of_mem _ member)
    simp only [values, operands, map_cons, here] at below ⊢
    rw [below]

end

lemma fixed_values (meaning : Semantics ε S V) (machine : Machine S V) (stack : ValueStack)
    (fixed : Fixed height stack) (whole : stack.length ≤ height) : stack.values meaning machine = held machine stack.length := by
  induction stack with
  | nil => rfl
  | cons entry rest ih =>
    have here := fixed.1 whole
    have below := ih fixed.2 (Nat.le_of_succ_le whole)
    simp only [values, operands, map_cons, length_cons, held, Entry.operand, here] at below ⊢
    rw [below]
    rfl

lemma fixed_whole (any : Nat) (fixed : Fixed height stack) (whole : stack.length ≤ height) : Fixed any stack := by
  induction stack with
  | nil => trivial
  | cons entry rest ih => exact ⟨fun _ => fixed.1 whole, ih fixed.2 (Nat.le_of_succ_le whole)⟩

lemma settled_drop (count : Nat) (stack : ValueStack) (settled : Settled stack) : Settled (stack.drop count) := by
  induction count generalizing stack with
  | zero => exact settled
  | succ count ih =>
    cases stack with
    | nil => trivial
    | cons entry rest => exact ih rest settled.2

lemma fixed_drop (count : Nat) (stack : ValueStack) (fixed : Fixed height stack) : Fixed height (stack.drop count) := by
  induction count generalizing stack with
  | zero => exact fixed
  | succ count ih =>
    cases stack with
    | nil => trivial
    | cons entry rest => exact ih rest fixed.2

def pushed (types : List Wasm.ValueType) (stack : ValueStack) : ValueStack :=
  (types.map fun type => ⟨type, none⟩).reverse ++ stack

lemma pushed_length : (pushed types stack).length = stack.length + types.length := by
  simp [pushed, Nat.add_comm]

lemma settled_append (plain : ∀ entry ∈ entries, entry.deferred = none) (settled : Settled stack) :
    Settled (entries ++ stack) := by
  induction entries with
  | nil => exact settled
  | cons entry rest ih =>
    have here := plain entry mem_cons_self
    refine ⟨?_, ih fun other member => plain other (mem_cons_of_mem _ member)⟩
    rw [here]
    exact nofun

lemma fixed_append (plain : ∀ entry ∈ entries, entry.deferred = none) (fixed : Fixed height stack) :
    Fixed height (entries ++ stack) := by
  induction entries with
  | nil => exact fixed
  | cons entry rest ih =>
    exact ⟨fun _ => plain entry mem_cons_self, ih fun other member => plain other (mem_cons_of_mem _ member)⟩

lemma values_append (meaning : Semantics ε S V) (plain : ∀ entry ∈ entries, entry.deferred = none) :
    values meaning machine (entries ++ stack) = (held machine (stack.length + entries.length)).take entries.length
        ++ stack.values meaning machine := by
  induction entries with
  | nil => rfl
  | cons entry rest ih =>
    have here := plain entry mem_cons_self
    have below := ih fun other member => plain other (mem_cons_of_mem _ member)
    have length : (rest ++ stack).length = stack.length + rest.length := by
      rw [length_append, Nat.add_comm]
    simp only [values] at below
    simp only [values, cons_append, operands, map_cons, Entry.operand, here, Option.getD_none, below, length]
    rfl

section

variable (types : List Wasm.ValueType)

lemma pushed_plain (entry : Entry)
    (member : entry ∈ (types.map fun type => (⟨type, none⟩ : Entry)).reverse) : entry.deferred = none := by
  rw [mem_reverse] at member
  obtain ⟨type, _, same⟩ := mem_map.mp member
  rw [← same]

lemma pushed_settled (settled : Settled stack) : Settled (pushed types stack) :=
  settled_append (pushed_plain types) settled

lemma pushed_fixed (fixed : Fixed height stack) : Fixed height (pushed types stack) :=
  fixed_append (pushed_plain types) fixed

end

lemma pushed_values (meaning : Semantics ε S V) (machine : Machine S V) (settled : Settled stack)
    {values : List V} (length : values.length = types.length) :
    (pushed types stack).values meaning (machine.assign stack.length values)
      = values.reverse ++ stack.values meaning machine := by
  have size : ((types.map fun type => (⟨type, none⟩ : Entry)).reverse).length = values.length := by
    simp [length]
  have below : stack.values meaning (machine.assign stack.length values) = stack.values meaning machine := by
    apply values_congr meaning machine _ settled
    · intro slot low
      simp only [Machine.assign, if_pos low]
    · intro _ _ _ _
      rfl
  rw [pushed, values_append meaning (pushed_plain types), size, held_assign, below, take_left' length_reverse]

lemma operand_slot (slot : Nat) (settled : ∀ slot, entry.deferred = some (.slot slot) → slot = below)
    (same : entry.operand below = .slot slot) : slot = below := by
  unfold Entry.operand at same
  cases deferred : entry.deferred with
  | none =>
    rw [deferred] at same
    cases same
    rfl
  | some operand =>
    rw [deferred] at same
    exact settled slot (deferred.trans (congrArg some same))

lemma set_slot_self : machine.setSlot slot (machine.slots slot) = machine := by
  have slots : (fun i => if i = slot then machine.slots slot else machine.slots i) = machine.slots := by
    funext i
    by_cases here : i = slot <;> simp [here]
  rw [Machine.setSlot, slots]

lemma set_slot_values (meaning : Semantics ε S V) (machine : Machine S V) (type : Wasm.ValueType)
    (value : V) (settled : Settled stack) : values meaning (machine.setSlot stack.length value) (⟨type, none⟩ :: stack)
      = value :: stack.values meaning machine := by
  have below := values_congr meaning machine (machine.setSlot stack.length value) settled
    (fun slot low => by simp only [Machine.setSlot, if_neg (Nat.ne_of_lt low)]) fun _ _ _ _ => rfl
  have top : (machine.setSlot stack.length value).read meaning (.slot stack.length) = value := by
    simp [Machine.read, Machine.setSlot]
  simp only [values] at below
  simp only [values, operands, map_cons, Entry.operand, Option.getD_none, below, top]

variable (select : Nat → Operand → Bool)

lemma materialize_length (stack : ValueStack) : (materialize select stack).2.length = stack.length := by
  induction stack with
  | nil => rfl
  | cons entry rest ih =>
    simp only [materialize]
    split
    · split <;> simp [ih]
    · simp [ih]

lemma materialize_settled (settled : Settled stack) : Settled (materialize select stack).2 := by
  induction stack with
  | nil => trivial
  | cons entry rest ih =>
    have below := ih settled.2
    have size := materialize_length select rest
    simp only [materialize]
    split
    · split
      · exact ⟨by simp, below⟩
      · exact ⟨by rw [size]; exact settled.1, below⟩
    · exact ⟨by rw [size]; exact settled.1, below⟩

lemma materialize_fixed (fixed : Fixed height stack) : Fixed height (materialize select stack).2 := by
  induction stack with
  | nil => trivial
  | cons entry rest ih =>
    have below := ih fixed.2
    have size := materialize_length select rest
    simp only [materialize]
    split
    · split
      · exact ⟨fun _ => rfl, below⟩
      · exact ⟨by rw [size]; exact fixed.1, below⟩
    · exact ⟨by rw [size]; exact fixed.1, below⟩

lemma materialize_cleared (stack : ValueStack) : Cleared select (materialize select stack).2 := by
  induction stack with
  | nil => trivial
  | cons entry rest ih =>
    have size := materialize_length select rest
    simp only [materialize]
    split
    · rename_i operand deferred
      split
      · exact ⟨by simp, ih⟩
      · rename_i kept
        refine ⟨?_, ih⟩
        intro other same
        rw [deferred] at same
        cases same
        rw [size]
        simpa using kept
    · rename_i deferred
      refine ⟨?_, ih⟩
      intro other same
      rw [deferred] at same
      cases same

lemma cleared_fixed {select : Nat → Operand → Bool} {low : Nat} (height : Nat)
    (cleared : Cleared select stack) (fixed : Fixed low stack)
    (above : ∀ slot operand, low ≤ slot → select slot operand = true) : Fixed height stack := by
  induction stack with
  | nil => trivial
  | cons entry rest ih =>
    refine ⟨fun _ => ?_, ih cleared.2 fixed.2⟩
    by_cases below : rest.length < low
    · exact fixed.1 below
    · cases deferred : entry.deferred with
      | none => rfl
      | some operand =>
        have kept := cleared.1 operand deferred
        rw [above rest.length operand (Nat.le_of_not_lt below)] at kept
        cases kept

lemma cleared_local (cleared : Cleared (fun _ operand => operand == .local index) stack)
    (member : entry ∈ stack) : entry.deferred ≠ some (.local index) := by
  induction stack with
  | nil => cases member
  | cons first rest ih =>
    rcases mem_cons.mp member with here | later
    · subst here
      intro deferred
      have kept := cleared.1 _ deferred
      simp at kept
    · exact ih cleared.2 later

lemma materialize_leads {meaning : Semantics ε S V} (view : View meaning)
    (select : Nat → Operand → Bool) (settled : Settled stack) (machine : Machine S V) :
    ∃ after, view.Leads (materialize select stack).1 machine after ∧ after.locals = machine.locals ∧ after.store = machine.store ∧
      (∀ slot, stack.length ≤ slot → after.slots slot = machine.slots slot) ∧
      (materialize select stack).2.values meaning after = stack.values meaning machine := by
  -- Entries are copied from the lowest up, so that a copy changes no slot that is read later.
  induction stack with
  | nil => exact ⟨machine, rfl, rfl, rfl, fun _ _ => rfl, rfl⟩
  | cons entry rest ih =>
    obtain ⟨middle, leads, locals, store, slots, same⟩ := ih settled.2
    have size := materialize_length select rest
    have kept := read_congr meaning machine middle settled.1
      (slots rest.length (Nat.le_refl _)) fun index _ => congrFun locals index
    have unchanged : ∀ slot, (entry :: rest).length ≤ slot → middle.slots slot = machine.slots slot :=
      fun slot above => slots slot (Nat.le_of_succ_le above)
    have whole : values meaning middle (entry :: (materialize select rest).2) = values meaning machine (entry :: rest) := by
      simp only [values, operands, map_cons, size, kept] at same ⊢
      rw [same]
    simp only [materialize]
    split
    · rename_i operand deferred
      split
      · refine ⟨middle.setSlot rest.length (middle.read meaning operand), ?_, locals, store, ?_, ?_⟩
        · exact view.leads_append _ _ _ _ _ leads (view.leads_act _ _ _ nofun rfl)
        · intro slot above
          have different : slot ≠ rest.length := by
            rw [length_cons] at above
            omega
          rw [← unchanged slot above]
          simp only [Machine.setSlot, if_neg different]
        · have reads : entry.operand rest.length = operand := by simp [Entry.operand, deferred]
          rw [reads] at kept
          have others := values_congr meaning middle (middle.setSlot rest.length (middle.read meaning operand))
            (materialize_settled select settled.2)
            (fun slot below => by simp only [Machine.setSlot, if_neg (show slot ≠ rest.length by omega)])
            fun _ _ _ _ => rfl
          simp only [values, operands, map_cons, reads] at same others whole ⊢
          rw [others, same, ← kept]
          simp [Entry.operand, size, Machine.read, Machine.setSlot]
      · exact ⟨middle, leads, locals, store, unchanged, whole⟩
    · exact ⟨middle, leads, locals, store, unchanged, whole⟩

lemma set_local_leads {meaning : Semantics ε S V} (view : View meaning) (index : Nat)
    {rest : ValueStack} (settled : Settled (entry :: rest)) (machine : Machine S V) :
    ∃ after, view.Leads ((materialize (fun _ operand => operand == .local index) rest).1 ++
          if entry.operand rest.length == .local index then [] else [.act (.setLocal index (entry.operand rest.length))]) machine after ∧
      after.locals = (machine.setLocal index (machine.read meaning (entry.operand rest.length))).locals ∧
      after.store = machine.store ∧
      (materialize (fun _ operand => operand == .local index) rest).2.values meaning after = rest.values meaning machine := by
  obtain ⟨middle, leads, locals, store, slots, same⟩ :=
    materialize_leads view (fun _ operand => operand == .local index) settled.2 machine
  have kept := read_congr meaning machine middle settled.1
    (slots rest.length (Nat.le_refl _)) fun index _ => congrFun locals index
  by_cases place : entry.operand rest.length = .local index
  · refine ⟨middle, ?_, ?_, store, same⟩
    · rw [if_pos (beq_iff_eq.mpr place), append_nil]
      exact leads
    · rw [locals, place]
      funext other
      by_cases here : other = index <;> simp [Machine.setLocal, Machine.read, here]
  · refine ⟨middle.setLocal index (middle.read meaning (entry.operand rest.length)), ?_, ?_, store, ?_⟩
    · rw [if_neg (by simp [place])]
      exact view.leads_append _ _ _ _ _ leads (view.leads_act _ _ _ nofun rfl)
    · simp only [Machine.setLocal, locals, kept]
    · rw [← same]
      apply values_congr meaning middle _ (materialize_settled _ settled.2)
      · intro _ _
        rfl
      · intro other member found deferred
        have cleared := cleared_local (materialize_cleared _ rest) member
        have different : found ≠ index := by
          intro equal
          rw [equal] at deferred
          exact cleared deferred
        simp only [Machine.setLocal, if_neg different]

lemma assign_cons : (machine.assign target (value :: rest)).slots slot
      = if slot = target then value else (machine.assign (target + 1) rest).slots slot := by
  simp only [Machine.assign]
  by_cases here : slot = target
  · subst here
    simp
  · by_cases below : slot < target
    · simp [here, below, show slot < target + 1 by omega]
    · have position : slot - target = slot - (target + 1) + 1 := by omega
      simp [here, below, show ¬ slot < target + 1 by omega, position]

lemma moved_slot {operands : List Operand} (target : Nat) :
    (match ((operands.mapIdx fun i operand => (target + i, operand)).filter
          fun (slot, operand) => operand != .slot slot).find? (·.1 == slot) with
      | some (_, operand) => machine.read meaning operand
      | none => machine.slots slot)
      = (machine.assign target (operands.map (machine.read meaning))).slots slot := by
  induction operands generalizing target with
  | nil => simp [Machine.assign]
  | cons operand rest ih =>
    have later := ih (target + 1)
    have shifted : (fun i operand => (target + (i + 1), operand) : Nat → Operand → Nat × Operand)
        = fun i operand => (target + 1 + i, operand) := by
      funext i operand
      rw [Nat.add_assoc, Nat.add_comm 1]
    rw [mapIdx_cons, shifted, map_cons, assign_cons, ← later, Nat.add_zero]
    by_cases inPlace : operand = .slot target
    · rw [filter_cons_of_neg (by simp [inPlace])]
      by_cases here : slot = target
      · subst here
        rw [if_pos rfl, later, inPlace]
        simp [Machine.assign, Machine.read]
      · rw [if_neg here]
    · rw [filter_cons_of_pos (by simp [inPlace])]
      by_cases here : slot = target
      · subst here
        rw [if_pos rfl, find?_cons_of_pos (by simp)]
      · rw [if_neg here, find?_cons_of_neg (by simp [Ne.symm here])]

lemma moves_leads (view : View meaning) (target : Nat)
    (operands : List Operand) (machine : Machine S V) : view.Leads (moves target operands) machine
      (machine.assign target (operands.map (machine.read meaning))) := by
  have moved : ∀ pairs, pairs = ((operands.mapIdx fun i operand => (target + i, operand)).filter
        fun (slot, operand) => operand != .slot slot) →
      machine.move meaning pairs = machine.assign target (operands.map (machine.read meaning)) := by
    intro pairs same
    have slots : (machine.move meaning pairs).slots = (machine.assign target (operands.map (machine.read meaning))).slots := by
      funext slot
      rw [← moved_slot, ← same]
      rfl
    simp only [Machine.move, Machine.assign] at slots ⊢
    rw [slots]
  unfold moves
  split
  · rename_i none
    rw [← moved [] none.symm]
    exact view.leads_nil machine
  · rename_i some
    rw [← moved _ rfl]
    refine view.leads_act _ _ _ ?_ rfl
    intro same
    exact some (Target.Action.move.inj same)

end ValueStack

end WasmLua.Compile
