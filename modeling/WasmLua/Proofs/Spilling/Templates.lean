import WasmLua.Proofs.Body.Machine
import WasmLua.Proofs.Spilling.Spelling

namespace WasmLua.Target

open List

def Action.operands : Action → List Operand
  | .setSlot slot value => [.slot slot, value]
  | .setLocal index value => [.local index, value]
  | .move pairs => pairs.map (.slot ·.1) ++ pairs.map (·.2)
  | .compute slot value => .slot slot :: value.operands
  | .call slot results callee args => (range results).map (.slot <| slot + ·) ++ (callee.operands ++ args)
  | .store _ address _ value => [address, value]
  | .setGlobal _ value => [value]
  | .tableSet _ index value => [index, value]
  | .tableFill _ index value count => [index, value, count]
  | .memoryCopy target source count => [target, source, count]
  | .memoryFill target value count => [target, value, count]
  | .unreachable => []

def Condition.operands : Condition → List Operand
  | .value (.nonzero a) | .value (.zero a) | .value (.equals a _) => [a]
  | .value (.between a _ _) => [a, a]
  | _ => []

mutual

/-- The operands of each line, in the order in which they are printed. -/
def Stmt.mentions : Stmt → List (List Operand)
  | .act action => [action.operands]
  | .ret values => [values]
  | .choose arms => arms.mentions
  | .once body | .forever body => [] :: body.mentions ++ [[]]
  | _ => [[]]

def Block.mentions : Block → List (List Operand)
  | .done => []
  | .next first rest => first.mentions ++ rest.mentions

def Arms.mentions : Arms → List (List Operand)
  | .none => [[]]
  | .otherwise body => [] :: body.mentions ++ [[]]
  | .arm condition body rest => condition.operands :: body.mentions ++ rest.mentions

end

/-- The same text around the same operands. Slots, and variables behind the parameters, are fields of a table in the second. -/
inductive Renamed (params : Nat) : List Operand → String → String → Prop where
  | words (text : String) : Renamed params [] text text
  | atom (value : Atom) (text : String) : Renamed params [.atom value] text text
  | slot (index : Nat) : Renamed params [.slot index] s!"s{index}" s!"s[{index}]"
  | given (index : Nat) (param : index < params) : Renamed params [.local index] s!"v{index}" s!"v{index}"
  | field (index : Nat) (own : params ≤ index) : Renamed params [.local index] s!"v{index}" s!"l[{index}]"
  | append {operands others : List Operand} {text more other rest : String} (first : Renamed params operands text other)
    (second : Renamed params others more rest) : Renamed params (operands ++ others) (text ++ more) (other ++ rest)

inductive RenamedLines (params : Nat) : List (List Operand) → List String → List String → Prop where
  | nil : RenamedLines params [] [] []
  | cons {operands : List Operand} {mentions : List (List Operand)} {text other : String} {texts others : List String}
    (first : Renamed params operands text other) (rest : RenamedLines params mentions texts others) :
    RenamedLines params (operands :: mentions) (text :: texts) (other :: others)

namespace Renamed

variable {names : Names} {start : String} {params : Nat} {text other more rest : String} {texts others : List String}
  {a b : Operand} {operands : List Operand} {mentions : List (List Operand)}

abbrev Across (names : Names) (params : Nat) (operands : List Operand) (write : Naming → String) : Prop :=
  Renamed params operands (write ⟨names, params, false⟩) (write ⟨names, params, true⟩)

abbrev AcrossLines (names : Names) (params : Nat) (mentions : List (List Operand)) (write : Naming → List String) : Prop :=
  RenamedLines params mentions (write ⟨names, params, false⟩) (write ⟨names, params, true⟩)

lemma operand (value : Operand) : Across names params [value] (·.operand value) := by
  cases value with
  | slot index => exact slot index
  | «local» index =>
    by_cases own : params ≤ index
    · simpa [Across, Naming.operand, Naming.variableText, own] using field index own
    · simpa [Across, Naming.operand, Naming.variableText, own] using given index (Nat.lt_of_not_le own)
  | atom value => exact atom value _

lemma map {α : Type} (items : List α) (named : α → Operand) {write : Naming → α → String}
    (each : ∀ item, Across names params [named item] (write · item)) :
    AcrossLines names params (items.map fun item => [named item]) fun naming => items.map (write naming) := by
  induction items with
  | nil => exact .nil
  | cons item items ih => exact .cons (each item) ih

lemma listed (each : RenamedLines params mentions texts others) : Renamed params mentions.flatten (commas texts) (commas others) := by
  induction each with
  | nil => exact words _
  | cons first rest ih =>
    cases rest with
    | nil => simpa [commas] using first
    | cons =>
      rw [commas, commas, String.intercalate_cons_cons, String.intercalate_cons_cons]
      simpa [commas] using (first.append (words _)).append ih

lemma of_eq {others : List Operand} (same : operands = others) (first : Renamed params operands text other) :
    Renamed params others text other := same ▸ first

lemma all {α : Type} (items : List α) (named : α → Operand) {write : Naming → α → String}
    (each : ∀ item, Across names params [named item] (write · item)) :
    Across names params (items.map named) fun naming => commas (items.map (write naming)) :=
  of_eq (by rw [← flatMap_def, map_eq_flatMap]) (listed (map items named each))

lemma applied (name : String) (each : RenamedLines params mentions texts others) :
    Renamed params mentions.flatten (apply start name texts) (apply start name others) :=
  of_eq (append_nil _) (((words _).append (listed each)).append (words _))

lemma narrowed (type : Wasm.FloatType) (rounds : Bool) (first : Renamed params operands text other) :
    Renamed params operands (rounded start type rounds text) (rounded start type rounds other) := by
  unfold rounded
  split
  · simpa using applied "fround" (.cons first .nil)
  · exact first

lemma unary (op : Unary) (first : Renamed params [a] text other) : Renamed params [a] (op.text start text) (op.text start other) := by
  rcases op with (_ | _) | _ | _ | _ | _
  all_goals simp only [Unary.text, decided]
  all_goals
    apply of_eq
    on_goal 2 => apply_rules [append, narrowed, applied, RenamedLines.cons, RenamedLines.nil, words]
    rfl

lemma binary (op : Binary) (first : Renamed params [a] text other) (second : Renamed params [b] more rest) :
    Renamed params [a, b] (op.text start text more) (op.text start other rest) := by
  rcases op with ⟨_ | _, _⟩ | _ | _ | _
  all_goals simp only [Binary.text, decided, unsignedText]
  on_goal 1 => split
  all_goals
    apply of_eq
    on_goal 2 => apply_rules [append, narrowed, applied, RenamedLines.cons, RenamedLines.nil, words]
    rfl

lemma computation (value : Computation) : Across names params value.operands (·.computation value) := by
  cases value with
  | unary op a => exact unary op (operand a)
  | binary op a b => exact binary op (operand a) (operand b)
  | memorySize | global | tableSize => exact words _
  | load | memoryGrow | tableGet | tableGrow =>
    apply of_eq
    on_goal 2 => apply_rules [applied, RenamedLines.cons, RenamedLines.nil, operand, words]
    rfl

lemma call (target : Callee) (args : List Operand) : Across names params (target.operands ++ args) fun naming =>
    (naming.callee target).1 ++ "(" ++ commas ((naming.callee target).2 ++ args.map naming.operand) ++ ")" := by
  have taken := @map names params _ args id _ operand
  have flat : (args.map fun arg => [arg]).flatten = args := by rw [← flatMap_def, flatMap_singleton']
  cases target with
  | defined => exact of_eq (by simp [flat, Callee.operands]) (((words _).append (listed (.cons (words _) taken))).append (words _))
  | imported => exact of_eq (by simp [flat, Callee.operands]) (((words _).append (listed taken)).append (words _))
  | element table entry =>
    have found (key : String) : Across names params [entry] fun naming =>
        naming.apply "callee" [Naming.table table, naming.operand entry, key] :=
      applied _ (.cons (words _) (.cons (operand entry) (.cons (words _) .nil)))
    exact of_eq (by simp [flat, Callee.operands]) ((((found _).append (words _)).append (listed taken)).append (words _))

lemma action (act : Action) : Across names params act.operands (·.action act) := by
  have taken (index : Nat) : Across names params [.slot index] (·.slot index) := slot index
  cases act with
  | setSlot index value => exact ((slot index).append (words _)).append (operand value)
  | setLocal index value => exact ((operand (.local index)).append (words _)).append (operand value)
  | setGlobal index value => exact (words _).append (operand value)
  | compute index value => exact ((slot index).append (words _)).append (computation value)
  | move pairs =>
    have targets := all pairs _ fun pair => taken pair.1
    exact of_eq (by simp [Action.operands]) ((targets.append (words _)).append (all pairs _ fun pair => operand pair.2))
  | call index results target args =>
    simp only [Across, Naming.action]
    split
    case isTrue none => exact of_eq (by simp [Action.operands, none]) (call target args)
    case isFalse =>
      have targets := all (range results) _ fun i => taken (index + i)
      exact of_eq (by simp [Action.operands]) ((targets.append (words _)).append (call target args))
  | unreachable => exact words _
  | store | tableSet | tableFill | memoryCopy | memoryFill =>
    apply of_eq
    on_goal 2 => apply_rules [applied, RenamedLines.cons, RenamedLines.nil, operand, words]
    rfl

lemma condition (test : Condition) : Across names params test.operands (·.condition test) := by
  cases test with
  | flagIs | flagSet => exact words _
  | value test =>
    cases test with
    | nonzero value | zero value | equals value => exact (operand value).append (words _)
    | between value => exact (((operand value).append (words _)).append (operand value)).append (words _)

end Renamed

namespace RenamedLines

open Renamed

variable {names : Names} {params : Nat} {texts others lines later : List String} {mentions further : List (List Operand)}

lemma append (first : RenamedLines params mentions texts others) (second : RenamedLines params further lines later) :
    RenamedLines params (mentions ++ further) (texts ++ lines) (others ++ later) := by
  induction first with
  | nil => exact second
  | cons first _ ih => exact .cons first ih

lemma indented (each : RenamedLines params mentions texts others) : RenamedLines params mentions (indent texts) (indent others) := by
  induction each with
  | nil => exact .nil
  | cons first _ ih => exact .cons ((words _).append first) ih

mutual

lemma stmt : (code : Stmt) → AcrossLines names params code.mentions (code.lines ·)
  | .act act => .cons (action act) .nil
  | .setFlag _ | .clearFlag | .leave => .cons (words _) .nil
  | .ret values => by
    simp only [AcrossLines, Stmt.lines]
    split
    case isTrue none => exact List.isEmpty_iff.mp none ▸ .cons (words _) .nil
    case isFalse => exact .cons (of_eq (map_id _) ((words _).append (all values id operand))) .nil
  | .choose chosen => arms "if" chosen
  | .once body | .forever body => .cons (words _) (append (indented (block body)) (.cons (words _) .nil))

lemma block : (code : Block) → AcrossLines names params code.mentions (code.lines ·)
  | .done => .nil
  | .next first rest => append (stmt first) (block rest)

lemma arms (word : String) : (code : Arms) → AcrossLines names params code.mentions (code.lines · word)
  | .none => .cons (words _) .nil
  | .otherwise body => .cons (words _) (append (indented (block body)) (.cons (words _) .nil))
  | .arm test body rest => .cons (of_eq (append_nil _) (((words _).append (condition test)).append (words _)))
      (append (indented (block body)) (arms "elseif" rest))

end

end RenamedLines

end WasmLua.Target

namespace WasmLua.Compile.Plan

open Target List

/-- How a function of a plan is compiled, and what is printed of it when it is spilled. -/
structure Spills (plan : Plan) (index : Nat) (function : Wasm.Function) : Prop where
  body : ∀ signature, plan.bodyAs index signature function true = plan.bodyAs index signature function false
  printed : ∀ (code : Target.Block) (params : Nat), RenamedLines params code.mentions
    (code.lines ⟨plan.names, params, false⟩) (code.lines ⟨plan.names, params, true⟩)
  untyped : plan.module.type? function.type = none → plan.compileFunction index function = .error .missingSignature
  typed : ∀ signature, plan.module.type? function.type = some signature →
    match plan.bodyAs index signature function false with
    | .error error => plan.compileFunction index function = .error error
    | .ok body => ∃ made, plan.compileFunction index function = .ok made ∧
      (made.function.spilled = true ↔
        150 < signature.params.length + function.locals.length + body.slots + if body.usesFlag then 1 else 0) ∧
      made.function.body = body.code ∧ made.function.params = signature.params.length ∧
      made.function.locals = function.locals ∧ made.function.slots = body.slots ∧
      made.function.usesFlag = body.usesFlag ∧ made.stats.spilled = made.function.spilled
  declared : ∀ made : Target.Function, made.spilled = true →
    (∃ values, made.declarations plan.names <+ ["local l = " ++ braced values, "local s = " ++ braced "", "local br"]) ∧
    made.lines plan.names = plan.names.routine made.name ("m" :: (range made.params).map (s!"v{·}"))
      :: indent (made.declarations plan.names ++ made.body.lines (made.naming plan.names)) ++ ["end", ""]

/-- Spilled or not, a body is the same code, printed alike but for the names of its operands. A function is spilled
when it has more than 150 variables, and declares at most three then. -/
theorem spilling_renames (plan : Plan) (index : Nat) (function : Wasm.Function) : plan.Spills index function where
  body signature := by simp only [body_as]
  printed code _ := RenamedLines.block code
  untyped missing := by
    rw [compile_function, missing]
    rfl
  typed signature found := by
    have compiled := compile_function plan index function
    simp only [found] at compiled
    cases done : plan.bodyAs index signature function false with
    | error error =>
      rw [done] at compiled
      exact compiled
    | ok body =>
      rw [done] at compiled
      exact ⟨_, compiled, decide_eq_true_iff, rfl, rfl, rfl, rfl, rfl, rfl⟩
  declared made spilled := by
    constructor
    · simp only [Function.declarations, spilled, if_true]
      have cut {p : Prop} [Decidable p] (line : String) : (if p then [] else [line]) <+ [line] := by split <;> simp
      refine ⟨_, ((cut _).append (cut _)).append ?_⟩
      split <;> simp
    · have own : (range made.params).map (made.naming plan.names).variableText = (range made.params).map (s!"v{·}") :=
        map_congr_left fun index member => by
          simp [Naming.variableText, Function.naming, Nat.not_le.mpr (mem_range.mp member)]
      rw [Function.lines, own]

def widePlan : Plan := ⟨{ Wasm.Module.empty with types := [⟨[.i32], []⟩] }, .default, ⟨"w2l", ["f0"], []⟩, []⟩

/-- Copies its parameter to the first of its variables. -/
def wide (locals : Nat) : Wasm.Function :=
  ⟨[], 0, none, replicate locals .i32, [.indexed .localGet 0, .indexed .localSet 1, .endBlock]⟩

def WideMade (locals : Nat) (spilled : Bool) (line : String) : Prop :=
  ∃ made, widePlan.compileFunction 0 (wide locals) = .ok made ∧ made.function.spilled = spilled ∧
    made.function.body.lines (made.function.naming widePlan.names) = [line]

/-- With a slot beside the parameter, the first function has 150 variables and the second one more. -/
theorem wide_spilled : WideMade 148 false "v1 = v0" ∧ WideMade 149 true "l[1] = v0" := by
  have made {locals : Nat} {line : String} (spilled : Bool) (many : spilled = true ↔ 150 < 1 + locals + 1)
      (checked : (widePlan.bodyAs 0 ⟨[.i32], []⟩ (wide locals) false).toOption.any (fun body => body.slots == 1 &&
        !body.usesFlag && body.code.lines ⟨widePlan.names, 1, spilled⟩ == [line]) = true) : WideMade locals spilled line := by
    have typed := (spilling_renames widePlan 0 (wide locals)).typed ⟨[.i32], []⟩ rfl
    cases done : widePlan.bodyAs 0 ⟨[.i32], []⟩ (wide locals) false with
    | error error =>
      rw [done] at checked
      cases checked
    | ok body =>
      rw [done] at typed checked
      obtain ⟨made, compiled, flag, code, params, -⟩ := typed
      simp only [Except.toOption, Option.any_some, Bool.and_eq_true, beq_iff_eq, Bool.not_eq_true'] at checked
      obtain ⟨⟨slots, unset⟩, lines⟩ := checked
      have same : made.function.spilled = spilled := by
        rw [Bool.eq_iff_iff, flag, many, slots, unset]
        simp [wide]
      refine ⟨made, compiled, same, ?_⟩
      rw [Function.naming, params, same, code]
      exact lines
  exact ⟨made false (by decide) (by decide +kernel), made true (by decide) (by decide +kernel)⟩

end WasmLua.Compile.Plan
