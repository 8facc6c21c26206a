import WasmLua.Proofs.Description.RoundTrip
import WasmLua.Proofs.Names.Renaming
import WasmLua.Proofs.Safety.Units

namespace WasmLua.Prelude

open Exec.Failure (afterMark?)

def nameByte (byte : UInt8) : Bool := Compile.isLetter byte || Compile.isDigit byte

def listed (line : Bytes) : List Bytes := (line.takeWhile (· != 0x3d)).splitOn 0x2c |>.map fun part =>
    (part.dropWhile (· == 0x20)).takeWhile nameByte

def published (line : Bytes) : List Bytes :=
  match (afterMark? "function rt." line).or (afterMark? "rt." line) with
  | some rest => [rest.takeWhile nameByte]
  | none => []

def declared (line : Bytes) : List Bytes :=
  match afterMark? "local function " line with
  | some rest => [rest.takeWhile nameByte]
  | none => ((afterMark? "local " line).map listed).getD []

def Chapter.margin (chapter : Chapter) : List Bytes := (chapter.lines.map Bytes.ofString).filter (·.head? != some 0x09)

def Chapter.Lists (chapter : Chapter) : Prop := chapter.margin.flatMap published = chapter.helpers.map Bytes.ofString ∧
    chapter.margin.flatMap declared = chapter.locals.map Bytes.ofString

lemma lists_of {chapter : Chapter}
    (helpers : ((chapter.lines.map (·.toUTF8.data.toList)).filter (·.head? != some 0x09)).flatMap published
      = chapter.helpers.map (·.toUTF8.data.toList))
    (locals : ((chapter.lines.map (·.toUTF8.data.toList)).filter (·.head? != some 0x09)).flatMap declared
      = chapter.locals.map (·.toUTF8.data.toList)) : chapter.Lists := by
  have same : Bytes.ofString = fun text : String => text.toUTF8.data.toList := funext fun text => Bytes.list_data text.toUTF8
  rw [Chapter.Lists, Chapter.margin, same]
  exact ⟨helpers, locals⟩

lemma chapters_list (chapter : Chapter) (member : chapter ∈ chapters) : chapter.Lists := by
  simp only [chapters, List.mem_cons, List.not_mem_nil, or_false] at member
  rcases member with rfl | rfl | rfl | rfl | rfl | rfl | rfl
  all_goals exact lists_of (by decide +kernel) (by decide +kernel)

def collisions : List (String × String) := [("NEG", "ZERO"), ("I64", "ZERO"), ("round", "even")]

lemma helper_chars {namePrefix name : String} :
    (Target.helper namePrefix name).toList = namePrefix.toList ++ '_' :: name.toList := by
  simp [Target.helper, String.toList_append]

variable {namePrefix name : String}

lemma helper_split {front back : String} (left : '_' ∉ front.toList) (right : '_' ∉ back.toList)
    (same : Target.helper namePrefix name = Target.helper front back) : namePrefix = front ∧ name = back := by
  have chars := congrArg String.toList same.symm
  rw [helper_chars, helper_chars, List.append_cons_inj_of_notMem left right] at chars
  exact ⟨String.toList_injective chars.1.symm, String.toList_injective chars.2.2.symm⟩

lemma local_collides {bound : String} (member : bound ∈ unitLocals)
    (same : Target.helper namePrefix name = bound) : (namePrefix, name) ∈ collisions := by
  have only : ∀ name ∈ unitLocals, '_' ∈ name.toList → name ∈ collisions.map fun pair => Target.helper pair.1 pair.2 := by
    decide +kernel
  have parted : '_' ∈ bound.toList := by
    rw [← same, helper_chars]
    exact List.mem_append_right _ List.mem_cons_self
  obtain ⟨⟨front, back⟩, pair, found⟩ := List.mem_map.mp (only bound member parted)
  have plain : ∀ pair ∈ collisions, '_' ∉ pair.1.toList ∧ '_' ∉ pair.2.toList := by decide +kernel
  obtain ⟨left, right⟩ := plain _ pair
  obtain ⟨rfl, rfl⟩ := helper_split left right (same.trans found.symm)
  exact pair

end WasmLua.Prelude

namespace WasmLua.Compile

open Target (helper)

variable {plan : Plan} {index : Nat} {item : CompiledFunction} {functions : List Wasm.Function} {options : Option Options}

lemma function_named {function : Wasm.Function} (made : plan.compileFunction index function = .ok item) :
    item.function.index = index ∧ item.function.name = plan.names.functionNames.getD index "" := by
  rw [Plan.compile_function] at made
  split at made
  · cases made
  · obtain ⟨body, -, same⟩ := bind_ok made
    cases same
    exact ⟨rfl, rfl⟩

lemma functions_named (first : Nat) (compiled : List CompiledFunction)
    (done : plan.compileFrom first functions = (compiled, none)) (member : item ∈ compiled) :
    item.function.name = plan.names.functionNames.getD item.function.index "" ∧
      item.function.index < first + functions.length := by
  induction functions generalizing first compiled with
  | nil =>
    cases done
    cases member
  | cons function rest ih =>
    rw [Plan.compileFrom] at done
    split at done
    · obtain ⟨named, below⟩ := ih (first + 1) compiled done member
      exact ⟨named, by rw [List.length_cons]; omega⟩
    · cases made : plan.compileFunction first function with
      | error error =>
        rw [made] at done
        cases done
      | ok head =>
        rcases all : plan.compileFrom (first + 1) rest with ⟨more, failure⟩
        simp only [made, all] at done
        cases done
        rcases List.mem_cons.mp member with rfl | later
        · obtain ⟨index, named⟩ := function_named made
          exact ⟨by rw [named, index], by rw [index, List.length_cons]; omega⟩
        · obtain ⟨named, below⟩ := ih (first + 1) more all later
          exact ⟨named, by rw [List.length_cons]; omega⟩

lemma compiled_names {module : Wasm.Module} {program : Target.Program}
    (compiled : compile module options = .ok program) : ∃ settings, settingsOf options = .ok settings ∧
      ∀ function ∈ program.functions,
        (functionNames module.functions settings.debugNames)[function.index]? = some function.name := by
  obtain ⟨plan, functions, compiles⟩ := compile_steps compiled
  refine ⟨plan.settings, compiles.settings, ?_⟩
  rw [compiles.assembled.functions]
  refine List.forall_mem_map.mpr fun item inside => ?_
  obtain ⟨named, below⟩ := functions_named 0 functions compiles.compiled inside
  have length : item.function.index < (functionNames module.functions plan.settings.debugNames).length := by
    rw [function_names_length]
    omega
  rw [named, compiles.names, List.getD_eq_getElem?_getD, List.getElem?_eq_getElem length]
  rfl

lemma plain_name_debug {debugNames : Bool} {name : String} (plain : '_' ∉ name.toList) (other : name.toList.head? ≠ some 'f')
    (here : (functionNames functions debugNames)[index]? = some name) :
    debugNames = true ∧ ∃ function, functions[index]? = some function ∧ sanitize function.name = name := by
  have base := plain_name_kept _ plain here
  rw [List.getElem?_mapIdx] at base
  obtain ⟨function, found, same⟩ := Option.map_eq_some_iff.mp base
  unfold baseName at same
  split at same
  · rename_i debug
    exact ⟨(Bool.and_eq_true_iff.mp debug).1, function, found, same⟩
  · refine absurd ?_ other
    rw [← same]
    simp [String.toList_append, toString]

lemma settings_debug {settings : Settings} (resolved : settingsOf options = .ok settings)
    (debug : settings.debugNames = true) : ∃ given, options = some given ∧ given.debugNames = true := by
  cases options with
  | none =>
    cases resolved
    cases debug
  | some given =>
    refine ⟨given, rfl, ?_⟩
    simp only [settingsOf, Options.resolve?] at resolved
    split at resolved
    · rename_i known
      split at known
      · cases known
        cases resolved
        exact debug
      · cases known
    · cases resolved

/-- The full name of a function of a unit is never that of a helper, a routine or another function.
It is that of a variable local to the unit only in the three listed cases, when it comes from a
debug name. -/
theorem generated_names_apart (module : Wasm.Module) (options : Option Options)
    (program : Target.Program) (compiled : compile module options = .ok program) :
    (∀ chapter ∈ Prelude.chapters, chapter.Lists) ∧ (∀ function ∈ program.functions, (∀ name ∈ Prelude.reserved,
        helper program.namePrefix function.name ≠ helper program.namePrefix name) ∧
      (∀ other ∈ program.functions, other.index ≠ function.index →
        helper program.namePrefix function.name ≠ helper program.namePrefix other.name) ∧
      (∀ name ∈ Prelude.unitLocals, helper program.namePrefix function.name = name →
        (program.namePrefix, function.name) ∈ Prelude.collisions ∧ ∃ given source, options = some given ∧ given.debugNames = true ∧
          module.functions[function.index]? = some source ∧ sanitize source.name = function.name)) ∧
    ((∀ function ∈ program.functions, (program.namePrefix, function.name) ∉ Prelude.collisions) →
      ∀ name ∈ Prelude.unitLocals, Exec.Code.named? program name = none) := by
  obtain ⟨settings, resolved, named⟩ := compiled_names compiled
  obtain ⟨distinct, free⟩ := function_names_distinct module.functions settings.debugNames
  have cancel (name other : String)
      (same : helper program.namePrefix name = helper program.namePrefix other) : name = other := by
    have chars := congrArg String.toList same
    rw [Prelude.helper_chars, Prelude.helper_chars] at chars
    exact String.toList_injective (List.cons.inj (List.append_cancel_left chars)).2
  refine ⟨Prelude.chapters_list, ?_, ?_⟩
  · intro function member
    have here := named function member
    refine ⟨?_, ?_, ?_⟩
    · intro name reserved same
      rw [← cancel _ _ same] at reserved
      exact free _ (List.mem_of_getElem? here) reserved
    · intro other inside different same
      obtain ⟨below, -⟩ := List.getElem?_eq_some_iff.mp (named other inside)
      refine different ((List.getElem?_inj below distinct).mp ?_)
      rw [named other inside, here, cancel _ _ same]
    · intro name inside same
      have pair := Prelude.local_collides inside same
      have word : ∀ pair ∈ Prelude.collisions,
          '_' ∉ pair.2.toList ∧ pair.2.toList.head? ≠ some 'f' := by decide +kernel
      obtain ⟨plain, other⟩ := word _ pair
      obtain ⟨debug, source, found, spelled⟩ := plain_name_debug plain other here
      obtain ⟨given, chosen, wanted⟩ := settings_debug resolved debug
      exact ⟨pair, given, source, chosen, wanted, found, spelled⟩
  · intro apart name inside
    rw [Exec.Code.named?, Option.map_eq_none_iff, List.find?_eq_none]
    intro function member same
    exact apart function member (Prelude.local_collides inside (beq_iff_eq.mp same))

def namesakes : Wasm.Module :=
  { Wasm.Module.empty with
    types := [⟨[], []⟩]
    functions := [⟨[0x74, 0x72, 0x61, 0x70], 0, none, [], [.endBlock]⟩, ⟨[0x65, 0x76, 0x65, 0x6e], 0, none, [], [.endBlock]⟩,
      ⟨[0x65, 0x76, 0x65, 0x6e], 0, none, [], [.endBlock]⟩] }

def evens : Wasm.Module :=
  { Wasm.Module.empty with
    types := [⟨[], []⟩]
    functions := [⟨[0x65, 0x76, 0x65, 0x6e], 0, none, [], [.endBlock]⟩] }

def rounded : Options := ⟨[0x72, 0x6f, 0x75, 0x6e, 0x64], true, 0, 0⟩

def fullNames (module : Wasm.Module) (options : Option Options) : Option (List String) :=
  match compile module options with
  | .ok program => some (program.functions.map fun function => helper program.namePrefix function.name)
  | .error _ => none

theorem namesakes_apart : ∃ program, compile namesakes (some rounded) = .ok program ∧
    (program.functions.map fun function => helper program.namePrefix function.name)
      = ["round_trap_0", "round_even_1", "round_even_2"] ∧ ∀ function ∈ program.functions, ∀ name ∈ Prelude.reserved,
      helper program.namePrefix function.name ≠ helper program.namePrefix name := by
  have named : fullNames namesakes (some rounded)
      = some ["round_trap_0", "round_even_1", "round_even_2"] := by decide +kernel
  unfold fullNames at named
  cases compiled : compile namesakes (some rounded) with
  | error error => simp [compiled] at named
  | ok program =>
    simp only [compiled, Option.some.injEq] at named
    obtain ⟨-, apart, -⟩ := generated_names_apart namesakes (some rounded) program compiled
    exact ⟨program, rfl, named, fun function member => (apart function member).1⟩

/-- A function named "even" under the prefix "round" takes the place of the variable that rounds. -/
theorem rounding_shadowed : ∃ program, compile evens (some rounded) = .ok program ∧
    (program.functions.map fun function => helper program.namePrefix function.name) = ["round_even"] ∧
    "round_even" ∈ Prelude.unitLocals := by
  have named : fullNames evens (some rounded) = some ["round_even"] := by decide +kernel
  unfold fullNames at named
  cases compiled : compile evens (some rounded) with
  | error error => simp [compiled] at named
  | ok program =>
    simp only [compiled, Option.some.injEq] at named
    exact ⟨program, rfl, named, by decide +kernel⟩

end WasmLua.Compile
