import WasmLua.Proofs.Body.Structured
import WasmLua.Target.Control

namespace WasmLua.Target

open Wasm (Semantics Task)

structure Machine (S V : Type) where
  slots : Nat → V
  locals : Nat → V
  store : S

def Unary.op : Unary → Wasm.Op
  | .intTest type => .intTest type
  | .int type op => .intUnary type op
  | .float type op => .floatUnary type op
  | .convert op => .convert op
  | .isNull => .refIsNull

def Binary.op : Binary → Wasm.Op
  | .intCompare type op => .intCompare type op
  | .floatCompare type op => .floatCompare type op
  | .int type op => .intBinary type op
  | .float type op => .floatBinary type op

def Computation.task : Computation → Task
  | .unary op _ => .numeric op.op
  | .binary op _ _ => .numeric op.op
  | .load access _ offset => .load access offset
  | .memorySize => .memorySize
  | .memoryGrow _ => .memoryGrow
  | .global index => .globalGet index
  | .tableGet table _ => .tableGet table
  | .tableGrow table _ _ => .tableGrow table
  | .tableSize table => .tableSize table

def Computation.operands : Computation → List Operand
  | .unary _ a => [a]
  | .binary _ a b => [a, b]
  | .load _ address _ => [address]
  | .memorySize => []
  | .memoryGrow delta => [delta]
  | .global _ => []
  | .tableGet _ index => [index]
  | .tableGrow _ value delta => [value, delta]
  | .tableSize _ => []

def Callee.task : Callee → Task
  | .defined function => .call function
  | .imported function => .call function
  | .element table _ key => .callElement table key

def Callee.operands : Callee → List Operand
  | .element _ index _ => [index]
  | _ => []

namespace Machine

variable {ε S V : Type}

def read (machine : Machine S V) (meaning : Semantics ε S V) : Operand → V
  | .slot index => machine.slots index
  | .local index => machine.locals index
  | .atom value => meaning.constant value

def setSlot (machine : Machine S V) (slot : Nat) (value : V) : Machine S V :=
  { machine with slots := fun i => if i = slot then value else machine.slots i }

def setLocal (machine : Machine S V) (index : Nat) (value : V) : Machine S V :=
  { machine with locals := fun i => if i = index then value else machine.locals i }

def move (machine : Machine S V) (meaning : Semantics ε S V) (pairs : List (Nat × Operand)) : Machine S V :=
  { machine with
    slots := fun i =>
      match pairs.find? (·.1 == i) with
      | some (_, operand) => machine.read meaning operand
      | none => machine.slots i }

def assign (machine : Machine S V) (slot : Nat) (values : List V) : Machine S V :=
  { machine with
    slots := fun i => if i < slot then machine.slots i
      else values[i - slot]?.getD (machine.slots i) }

def perform (machine : Machine S V) (meaning : Semantics ε S V) (task : Task) (slot results : Nat)
    (operands : List Operand) : EStateM.Result ε (Machine S V) Unit :=
  match meaning.perform task results (operands.map (machine.read meaning)) machine.store with
  | .ok values store => .ok () { machine.assign slot values.toList with store := store }
  | .error error store => .error error { machine with store := store }

def holds (machine : Machine S V) (meaning : Semantics ε S V) : Test → Bool
  | .nonzero value => meaning.word (machine.read meaning value) != 0
  | .zero value => meaning.word (machine.read meaning value) == 0
  | .equals value number => (meaning.word (machine.read meaning value)).toInt == number
  | .between value low high =>
    let word := (meaning.word (machine.read meaning value)).toInt
    decide (low ≤ word ∧ word ≤ high)

end Machine

variable {ε σ β S V : Type}

def act (meaning : Semantics ε S V) (action : Action) (machine : Machine S V) : EStateM.Result ε (Machine S V) Unit :=
  match action with
  | .setSlot slot value => .ok () (machine.setSlot slot (machine.read meaning value))
  | .setLocal index value => .ok () (machine.setLocal index (machine.read meaning value))
  | .move pairs => .ok () (machine.move meaning pairs)
  | .compute slot value => machine.perform meaning value.task slot 1 value.operands
  | .call slot results callee args =>
    machine.perform meaning callee.task slot results (args ++ callee.operands)
  | .store access address offset value =>
    machine.perform meaning (.store access offset) 0 0 [address, value]
  | .setGlobal index value => machine.perform meaning (.globalSet index) 0 0 [value]
  | .tableSet table index value => machine.perform meaning (.tableSet table) 0 0 [index, value]
  | .tableFill table index value count =>
    machine.perform meaning (.tableFill table) 0 0 [index, value, count]
  | .memoryCopy target source count =>
    machine.perform meaning .memoryCopy 0 0 [target, source, count]
  | .memoryFill target value count =>
    machine.perform meaning .memoryFill 0 0 [target, value, count]
  | .unreachable => .error meaning.unreachable machine

def machineMeaning (meaning : Semantics ε S V) : Interpretation ε (Machine S V) (List V) where
  act := act meaning
  test := fun test machine => .ok (machine.holds meaning test) machine
  yield := fun values machine => .ok (values.map (machine.read meaning)) machine

def ending : EStateM.Result ε (Machine S V) (Exit (List V) × Flag) → Wasm.Ending ε S V
  | .ok (.next, _) machine => .fell machine.store
  | .ok (.finished values, _) machine => .returned values machine.store
  | .ok (.unfinished, _) machine => .unfinished machine.store
  | .ok (.left, _) _ => .stuck
  | .error error machine => .trapped error machine.store

def watchRounds (round : Flag → σ → EStateM.Result ε σ (Exit β × Flag)) : Nat → Flag → σ → EStateM.Result ε σ (Exit β × Flag)
  | 0, flag, state => .ok (.unfinished, flag) state
  | rounds + 1, flag, state =>
    match round flag state with
    | .ok (.next, flag) state => watchRounds round rounds flag state
    | .ok (exit, flag) state => .ok (exit.outside, flag) state
    | .error error state => .error error state

mutual

def Stmt.watch (seen : Flag → Interpretation ε σ β) (rounds : Nat) : Stmt → Flag → σ → EStateM.Result ε σ (Exit β × Flag)
  | .act action, flag, state =>
    match (seen flag).act action state with
    | .ok _ state => .ok (.next, flag) state
    | .error error state => .error error state
  | .setFlag label, _, state => .ok (.next, some label) state
  | .clearFlag, _, state => .ok (.next, none) state
  | .leave, flag, state => .ok (.left, flag) state
  | .ret values, flag, state =>
    match (seen flag).yield values state with
    | .ok value state => .ok (.finished value, flag) state
    | .error error state => .error error state
  | .choose arms, flag, state => Arms.watch seen rounds arms flag state
  | .once body, flag, state =>
    match Block.watch seen rounds body flag state with
    | .ok (exit, flag) state => .ok (exit.outside, flag) state
    | .error error state => .error error state
  | .forever body, flag, state =>
    watchRounds (fun flag state => Block.watch seen rounds body flag state) rounds flag state

def Block.watch (seen : Flag → Interpretation ε σ β) (rounds : Nat) : Block → Flag → σ → EStateM.Result ε σ (Exit β × Flag)
  | .done, flag, state => .ok (.next, flag) state
  | .next first rest, flag, state =>
    match Stmt.watch seen rounds first flag state with
    | .ok (.next, flag) state => Block.watch seen rounds rest flag state
    | other => other

def Arms.watch (seen : Flag → Interpretation ε σ β) (rounds : Nat) : Arms → Flag → σ → EStateM.Result ε σ (Exit β × Flag)
  | .none, flag, state => .ok (.next, flag) state
  | .otherwise body, flag, state => Block.watch seen rounds body flag state
  | .arm condition body rest, flag, state =>
    match condition.holds (seen flag) flag state with
    | .ok true state => Block.watch seen rounds body flag state
    | .ok false state => Arms.watch seen rounds rest flag state
    | .error error state => .error error state

end

lemma repeat_watch {round : Flag → EStateM ε σ (Exit β × Flag)} {watched : Flag → σ → EStateM.Result ε σ (Exit β × Flag)}
    (same : ∀ flag state, round flag state = watched flag state) (rounds : Nat) (flag : Flag) (state : σ) :
    repeatBlock round rounds flag state = watchRounds watched rounds flag state := by
  induction rounds generalizing flag state with
  | zero => rfl
  | succ rounds ih =>
    simp only [repeatBlock, watchRounds, bind, EStateM.bind, same]
    cases watched flag state with
    | error error state => rfl
    | ok value state =>
      obtain ⟨exit, flag⟩ := value
      cases exit with
      | next => exact ih flag state
      | left | finished value | unfinished => rfl

mutual

lemma stmt_run_watch (meaning : Interpretation ε σ β) (rounds : Nat) (stmt : Stmt) (flag : Flag)
    (state : σ) : stmt.run meaning rounds flag state = stmt.watch (fun _ => meaning) rounds flag state := by
  cases stmt with
  | act action =>
    simp only [Stmt.run, Stmt.watch, bind, EStateM.bind]
    cases meaning.act action state <;> rfl
  | setFlag label | clearFlag | leave => rfl
  | ret values =>
    simp only [Stmt.run, Stmt.watch, bind, EStateM.bind]
    cases meaning.yield values state <;> rfl
  | choose arms => exact arms_run_watch meaning rounds arms flag state
  | once body =>
    simp only [Stmt.run, Stmt.watch, bind, EStateM.bind, block_run_watch meaning rounds body]
    cases body.watch (fun _ => meaning) rounds flag state <;> rfl
  | forever body =>
    simp only [Stmt.run, Stmt.watch]
    exact repeat_watch (block_run_watch meaning rounds body) rounds flag state

lemma block_run_watch (meaning : Interpretation ε σ β) (rounds : Nat) (block : Block) (flag : Flag) (state : σ) :
    block.run meaning rounds flag state = block.watch (fun _ => meaning) rounds flag state := by
  cases block with
  | done => rfl
  | next first rest =>
    simp only [Block.run, Block.watch, bind, EStateM.bind, stmt_run_watch meaning rounds first]
    cases first.watch (fun _ => meaning) rounds flag state with
    | error error state => rfl
    | ok value state =>
      obtain ⟨exit, flag⟩ := value
      cases exit with
      | next => exact block_run_watch meaning rounds rest flag state
      | left | finished value | unfinished => rfl

lemma arms_run_watch (meaning : Interpretation ε σ β) (rounds : Nat) (arms : Arms) (flag : Flag) (state : σ) :
    arms.run meaning rounds flag state = arms.watch (fun _ => meaning) rounds flag state := by
  cases arms with
  | none => rfl
  | otherwise body => exact block_run_watch meaning rounds body flag state
  | arm condition body rest =>
    simp only [Arms.run, Arms.watch, bind, EStateM.bind]
    cases condition.holds meaning flag state with
    | error error state => rfl
    | ok holds state =>
      cases holds with
      | true => exact block_run_watch meaning rounds body flag state
      | false => exact arms_run_watch meaning rounds rest flag state

end

def follow (result : EStateM.Result ε σ (Exit β × Flag))
    (rest : Flag → σ → EStateM.Result ε σ (Exit β × Flag)) : EStateM.Result ε σ (Exit β × Flag) :=
  match result with
  | .ok (.next, flag) state => rest flag state
  | other => other

variable {seen : Flag → Interpretation ε σ β} {rounds : Nat} {flag : Flag} {state : σ}

lemma watch_cons : (Block.ofList (first :: rest)).watch seen rounds flag state =
      follow (first.watch seen rounds flag state) ((Block.ofList rest).watch seen rounds) := by
  rw [Block.ofList, Block.watch]
  rfl

lemma follow_assoc :
    follow (follow result middle) rest = follow result fun flag state => follow (middle flag state) rest := by
  cases result with
  | error error state => rfl
  | ok value state =>
    obtain ⟨exit, flag⟩ := value
    cases exit <;> rfl

lemma watch_append (seen : Flag → Interpretation ε σ β) (rounds : Nat) (first second : List Stmt)
    (flag : Flag) (state : σ) : (Block.ofList (first ++ second)).watch seen rounds flag state =
      follow ((Block.ofList first).watch seen rounds flag state) ((Block.ofList second).watch seen rounds) := by
  induction first generalizing flag state with
  | nil => rfl
  | cons stmt first ih =>
    rw [List.cons_append, watch_cons, watch_cons, follow_assoc]
    congr 1
    funext flag state
    exact ih flag state

lemma watch_single : (Block.ofList [stmt]).watch seen rounds flag state = stmt.watch seen rounds flag state := by
  rw [watch_cons]
  cases stmt.watch seen rounds flag state with
  | error error state => rfl
  | ok value state =>
    obtain ⟨exit, flag⟩ := value
    cases exit <;> rfl

end WasmLua.Target
