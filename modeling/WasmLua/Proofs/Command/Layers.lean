import Mathlib
import WasmLua.Command.Dispatch

namespace WasmLua.Command

open Settings Configuration List Option
open ConfigFile (Field)

namespace Settings

def value? (settings : Settings) : Field → Option FlagValue
  | .namePrefix => if settings.namePrefix.isEmpty then none else some (.text settings.namePrefix)
  | .debugNames => settings.debugNames.map .switch
  | .maxPages => if settings.maxPages = 0 then none else some (.word settings.maxPages)
  | .maxElements => if settings.maxElements = 0 then none else some (.word settings.maxElements)
  | .verbose => settings.verbose.map .switch

lemma value_apply {lower upper : Settings} {field : Field} :
    (lower.apply upper).value? field = (upper.value? field).or (lower.value? field) := by
  cases field with
  | namePrefix | maxPages | maxElements =>
    simp only [value?, apply]
    split <;> simp_all
  | debugNames => cases same : upper.debugNames <;> simp [value?, apply, same]
  | verbose => cases same : upper.verbose <;> simp [value?, apply, same]

lemma value_unset (field : Field) : unset.value? field = none := by
  cases field <;> rfl

variable (settings : Settings)

lemma prefix_value : settings.namePrefix = match settings.value? .namePrefix with
      | some (.text text) => text
      | _ => [] := by
  cases same : settings.namePrefix <;> simp [value?, same]

lemma pages_value : settings.maxPages = match settings.value? .maxPages with
      | some (.word pages) => pages
      | _ => 0 := by
  by_cases zero : settings.maxPages = 0 <;> simp [value?, zero]

lemma elements_value : settings.maxElements = match settings.value? .maxElements with
      | some (.word elements) => elements
      | _ => 0 := by
  by_cases zero : settings.maxElements = 0 <;> simp [value?, zero]

lemma switch_map_inj {a b : Option Bool} (same : a.map FlagValue.switch = b.map .switch) : a = b :=
  map_injective (fun _ _ => FlagValue.switch.inj) same

lemma ext_value {a b : Settings} (same : ∀ field, a.value? field = b.value? field) : a = b := by
  have first : a.namePrefix = b.namePrefix := by rw [prefix_value a, prefix_value b, same]
  have second : a.debugNames = b.debugNames := switch_map_inj (same .debugNames)
  have third : a.maxPages = b.maxPages := by rw [pages_value a, pages_value b, same]
  have fourth : a.maxElements = b.maxElements := by rw [elements_value a, elements_value b, same]
  have fifth : a.verbose = b.verbose := switch_map_inj (same .verbose)
  cases a
  cases b
  simp_all

lemma apply_assoc (a b c : Settings) : (a.apply b).apply c = a.apply (b.apply c) := by
  apply ext_value
  intro field
  simp only [value_apply, Option.or_assoc]

lemma unset_apply : unset.apply settings = settings := by
  apply ext_value
  intro field
  rw [value_apply, value_unset, or_none]

lemma apply_unset : settings.apply unset = settings := by
  apply ext_value
  intro field
  rw [value_apply, value_unset, none_or]

lemma apply_fold (base : Settings) {layers : List Settings} :
    layers.foldl apply base = base.apply (layers.foldl apply unset) := by
  induction layers generalizing base with
  | nil => exact (apply_unset base).symm
  | cons layer rest ih => rw [foldl_cons, foldl_cons, ih, ih (unset.apply layer), unset_apply, apply_assoc]

lemma value_fold (layers : List Settings) (field : Field) :
    (layers.foldl apply unset).value? field = layers.reverse.findSome? (·.value? field) := by
  induction layers with
  | nil => exact value_unset field
  | cons layer rest ih =>
    rw [foldl_cons, unset_apply, apply_fold, value_apply, ih, reverse_cons, findSome?_append, findSome?_singleton]

end Settings

section Kinds

def FlagValue.kind : FlagValue → FlagKind
  | .switch _ => .switch
  | .text _ => .text
  | .word _ => .word

def Given.Kinded (flags : List Flag) (given : Given) : Prop :=
  ∀ entry ∈ given.values, ∃ flag ∈ flags, flag.name = entry.1 ∧ entry.2.kind = flag.kind

namespace Flags

variable {flags : List Flag} {given after : Given}

lemma assign_kinded (member : flag ∈ flags) (kinded : given.Kinded flags)
    (assigned : given.assign flag value = .ok after) : after.Kinded flags := by
  have entered (found : FlagValue) (same : found.kind = flag.kind) :
      Given.Kinded flags { given with values := (flag.name, found) :: given.values } :=
    forall_mem_cons.mpr ⟨⟨flag, member, rfl, same⟩, kinded⟩
  unfold Given.assign at assigned
  cases kind : flag.kind with
  | switch =>
    simp only [kind] at assigned
    cases read : Literal.boolean value with
    | error error => simp [read, Except.mapError, Except.map] at assigned
    | ok found =>
      simp only [read, Except.mapError, Except.map, Except.ok.injEq] at assigned
      rw [← assigned]
      exact entered _ kind.symm
  | text =>
    simp only [kind, Except.ok.injEq] at assigned
    rw [← assigned]
    exact entered _ kind.symm
  | word =>
    simp only [kind] at assigned
    cases read : Literal.unsigned 32 value with
    | error error => simp [read, Except.mapError, Except.map] at assigned
    | ok found =>
      simp only [read, Except.mapError, Except.map, Except.ok.injEq] at assigned
      rw [← assigned]
      exact entered _ kind.symm

def Sound (flags : List Flag) (step : Given × Option Pending) : Prop :=
  step.1.Kinded flags ∧ ∀ pending ∈ step.2, pending.flag ∈ flags

variable {result : Except FlagError Given} {step : Given × Option Pending}

lemma map_sound (assigned : ∀ after, result = .ok after → after.Kinded flags)
    (done : result.map (·, none) = .ok step) : Sound flags step := by
  cases result with
  | error error => cases done
  | ok after =>
    cases done
    exact ⟨assigned after rfl, by simp⟩

lemma long_sound (arg : Bytes) (step : Given × Option Pending)
    (kinded : given.Kinded flags) (done : long flags arg body given = .ok step) : Sound flags step := by
  unfold long at done
  split at done
  · cases done
  · split at done
    · cases done
    · simp only at done
      split at done
      · split at done <;> cases done
      · rename_i flag found
        have member : flag ∈ flags := mem_of_find?_eq_some found
        split at done
        · exact map_sound (fun after => assign_kinded member kinded) done
        · split at done
          · exact map_sound (fun after => assign_kinded member kinded) done
          · cases done
            exact ⟨kinded, by simpa using member⟩

lemma switch_sound {next : Given → Except FlagError (Given × Option Pending)}
    (assigned : ∀ after, result = .ok after → after.Kinded flags)
    (goes : ∀ after, after.Kinded flags → next after = .ok step → Sound flags step)
    (done : (match result with
      | .ok given => next given
      | .error error => .error error) = .ok step) : Sound flags step := by
  cases result with
  | error error => cases done
  | ok after => exact goes after (assigned after rfl) done

lemma letters_sound (step : Given × Option Pending) (kinded : given.Kinded flags)
    (done : letters flags group given = .ok step) : Sound flags step := by
  induction group generalizing given with
  | nil =>
    cases done
    exact ⟨kinded, by simp⟩
  | cons letter rest ih =>
    have named : ∀ flag, lettered? flags letter = some flag → flag ∈ flags := fun flag found => mem_of_find?_eq_some found
    unfold letters at done
    split at done
    · cases done
      exact ⟨kinded, by simp⟩
    · split at done
      · split at done <;> cases done
      · rename_i flag found
        have assigns (value : Bytes) (after : Given) (assigned : given.assign flag value = .ok after) :
            after.Kinded flags := assign_kinded (named flag found) kinded assigned
        split at done
        · split at done
          · exact map_sound (assigns _) done
          · split at done
            · exact switch_sound (assigns _) (fun after kinded => ih kinded) done
            · exact map_sound (assigns _) done
        · split at done
          · exact switch_sound (assigns _) (fun after kinded => ih kinded) done
          · split at done
            · cases done
              exact ⟨kinded, by simpa using named flag found⟩
            · exact map_sound (assigns _) done

lemma follow_kinded {rest : List Bytes} {step : Except FlagError (Given × Option Pending)} (done : (match step with
      | .error error => .error error
      | .ok (given, none) => parseFrom flags rest given
      | .ok (given, some pending) =>
        match rest with
        | [] => .error pending.missing
        | value :: rest =>
          match given.assign pending.flag value with
          | .ok given => parseFrom flags rest given
          | .error error => .error error : Except FlagError Given) = .ok after)
    (sound : ∀ found, step = .ok found → Sound flags found)
    (shorter : ∀ args given, args.length ≤ rest.length → given.Kinded flags →
      parseFrom flags args given = .ok after → after.Kinded flags) : after.Kinded flags := by
  cases step with
  | error error => cases done
  | ok found =>
    obtain ⟨kinded, waits⟩ := sound found rfl
    obtain ⟨given, pending⟩ := found
    cases pending with
    | none => exact shorter rest given (Nat.le_refl _) kinded done
    | some pending =>
      cases rest with
      | nil => cases done
      | cons value rest =>
        cases assigned : given.assign pending.flag value with
        | error error => simp [assigned] at done
        | ok next =>
          simp only [assigned] at done
          exact shorter rest next (Nat.le_succ _) (assign_kinded (waits pending rfl) kinded assigned) done

lemma parse_from_kinded (args : List Bytes) (kinded : given.Kinded flags)
    (parsed : parseFrom flags args given = .ok after) : after.Kinded flags := by
  -- A flag may take the next argument, so the induction is on the number of arguments.
  induction size : args.length using Nat.strong_induction_on generalizing args given with
  | _ size ih =>
    subst size
    cases args with
    | nil =>
      cases parsed
      exact kinded
    | cons arg rest =>
      have shorter (args : List Bytes) (given : Given) (fewer : args.length ≤ rest.length)
          (kinded : given.Kinded flags) (parsed : parseFrom flags args given = .ok after) :
          after.Kinded flags := ih args.length (Nat.lt_succ_of_le fewer) args kinded parsed rfl
      rw [parseFrom.eq_def] at parsed
      dsimp only at parsed
      cases shaped : shape arg <;> simp only [shaped] at parsed
      · exact shorter rest { given with args := given.args ++ [arg] } (Nat.le_refl _) kinded parsed
      · cases parsed
        exact kinded
      · exact follow_kinded parsed (fun found => long_sound arg found kinded) shorter
      · exact follow_kinded parsed (fun found => letters_sound found kinded) shorter

end Flags

end Kinds

def FlagValue.isBlank : FlagValue → Bool
  | .switch _ => false
  | .text value => value.isEmpty
  | .word value => value == 0

def FlagValue.opposite : FlagValue → FlagValue
  | .switch value => .switch !value
  | value => value

namespace Configuration

def Apart (extra : List Flag) : Prop := ∀ flag ∈ extra, flag.name ∉ flags.map (·.name)

instance (extra : List Flag) : Decidable (Apart extra) :=
  inferInstanceAs (Decidable (∀ flag ∈ extra, flag.name ∉ flags.map (·.name)))

def explicit? (given : Given) : Field → Option FlagValue
  | .namePrefix => given.value? "name-prefix"
  | .debugNames => (given.value? "no-debug-names").map FlagValue.opposite
  | .maxPages => given.value? "max-memory-pages"
  | .maxElements => none
  | .verbose => given.value? "verbose"

section Explicit

variable {extra : List Flag} (apart : Apart extra) {args : List Bytes} {given : Given}
  (parsed : Flags.parse (flags ++ extra) args = .ok given) include apart parsed

lemma explicit_kind (own : Flag) (member : own ∈ flags) (value : FlagValue)
    (explicit : given.value? own.name = some value) : value.kind = own.kind := by
  obtain ⟨later, earlier, listed, -⟩ := lookup_eq_some_iff.mp explicit
  have entry : (own.name, value) ∈ given.values := by
    rw [listed]
    simp
  obtain ⟨flag, known, same, kind⟩ := Flags.parse_from_kinded _ (by simp [Given.Kinded, Given.none]) parsed _ entry
  have distinct : ∀ a ∈ flags, ∀ b ∈ flags, a.name = b.name → a = b := by decide
  rcases mem_append.mp known with inside | outside
  · rw [kind, distinct flag inside own member same]
  · exact absurd (mem_map_of_mem member) (same ▸ apart flag outside)

lemma flags_value :
    (ofFlags given).value? field = (explicit? given field).filter fun value => !value.isBlank := by
  have kinds := explicit_kind apart parsed
  cases field with
  | namePrefix =>
    cases explicit : given.value? "name-prefix" with
    | none => simp [value?, ofFlags, explicit?, Given.text?, explicit]
    | some value =>
      have kind := kinds ⟨"name-prefix", some 'n', .text⟩ (by decide) value explicit
      cases value with
      | text text =>
        cases text <;> simp [value?, ofFlags, explicit?, Given.text?, explicit, filter_some, FlagValue.isBlank]
      | switch | word => cases kind
  | debugNames =>
    simp only [value?, ofFlags, explicit?, Given.switch?]
    cases explicit : given.value? "no-debug-names" with
    | none => rfl
    | some value =>
      have kind := kinds ⟨"no-debug-names", none, .switch⟩ (by decide) value explicit
      cases value with
      | switch off => rfl
      | text | word => cases kind
  | maxPages =>
    cases explicit : given.value? "max-memory-pages" with
    | none => simp [value?, ofFlags, explicit?, Given.word?, explicit]
    | some value =>
      have kind := kinds ⟨"max-memory-pages", none, .word⟩ (by decide) value explicit
      cases value with
      | word pages =>
        by_cases zero : pages = 0 <;>
          simp [value?, ofFlags, explicit?, Given.word?, explicit, filter_some, FlagValue.isBlank, zero]
      | switch | text => cases kind
  | maxElements => rfl
  | verbose =>
    simp only [value?, ofFlags, explicit?, Given.switch?]
    cases explicit : given.value? "verbose" with
    | none => rfl
    | some value =>
      have kind := kinds ⟨"verbose", some 'v', .switch⟩ (by decide) value explicit
      cases value with
      | switch on => rfl
      | text | word => cases kind

end Explicit

variable {files : Files}

lemma load_layers (named : Settings)
    (read : ofFile files (path given) = .ok file) (found : environment.settings = .ok named) : load files environment given
      = .ok ([.default, file, named, ofFlags given].foldl apply .unset) := by
  simp only [load, read, found, foldl_cons, foldl_nil, unset_apply]
  rfl

/-- Layers form a monoid in which the last layer that sets a setting decides it. A flag that is
given decides its setting unless its value is the empty text or zero. -/
theorem settings_layered (files : Files) (environment : Environment) (extra : List Flag) (args : List Bytes)
    (given : Given) (file named : Settings) (apart : Apart extra) (parsed : Flags.parse (flags ++ extra) args = .ok given)
    (read : ofFile files (path given) = .ok file) (found : environment.settings = .ok named) :
    (∃ settings, load files environment given = .ok settings ∧ (∀ field, settings.value? field
        = [ofFlags given, named, file, .default].findSome? (·.value? field)) ∧
      (∀ field value, explicit? given field = some value → value.isBlank = false → settings.value? field = some value) ∧
      ∀ field, (∀ value, explicit? given field = some value → value.isBlank = true) →
        settings.value? field = [named, file, .default].findSome? (·.value? field)) ∧
    (∀ a b c : Settings, (a.apply b).apply c = a.apply (b.apply c)) ∧
    (∀ settings : Settings, unset.apply settings = settings ∧ settings.apply .unset = settings) ∧
    ∀ (layers : List Settings) (field : Field), (layers.foldl apply .unset).value? field = layers.reverse.findSome? (·.value? field) := by
  have settled (field : Field) :
      ([.default, file, named, ofFlags given].foldl apply .unset).value? field
        = [ofFlags given, named, file, .default].findSome? (·.value? field) :=
    value_fold _ field
  refine ⟨⟨_, load_layers named read found, settled, ?_, ?_⟩,
    apply_assoc, fun settings => ⟨settings.unset_apply, settings.apply_unset⟩, value_fold⟩
  · intro field value explicit shown
    rw [settled, findSome?_cons, flags_value apart parsed, explicit, filter_some, shown]
    rfl
  · intro field blank
    have unsaid : (explicit? given field).filter (fun value => !value.isBlank) = none := by
      rw [filter_eq_none_iff]
      intro value explicit
      simp [blank value explicit]
    rw [settled, findSome?_cons, flags_value apart parsed, unsaid]

lemma file_read {path : Bytes} (content : Bytes) {settings : Settings} (named : path.isEmpty = false)
    (found : files.read? path = some content) (valid : ConfigFile.settings? content = some settings) :
    ofFile files path = .ok settings := by
  simp only [ofFile, named, found, valid, Bool.false_eq_true, if_false]

def threeSettings : Bytes := Bytes.ofString "namePrefix: q\nverbose: true\nmaxMemoryPages: 5\n"

def threeFiles : Files := [(Bytes.ofString "/config.yaml", threeSettings)]

def sevenPages : Environment := [(Bytes.ofString "WASM2LUA_MAX_MEMORY_PAGES", Bytes.ofString "7")]

def quietArgs : List Bytes :=
  ["--config=/config.yaml", "--verbose=false", "--name-prefix="].map Bytes.ofString

def quietGiven : Given :=
  ⟨[("name-prefix", .text []), ("verbose", .switch false), ("config", .text (Bytes.ofString "/config.yaml"))], []⟩

lemma three_settings_read : ofFile threeFiles (path quietGiven) = .ok ⟨[0x71], none, 5, 0, some true⟩ :=
  file_read threeSettings (by decide +kernel) (by decide +kernel) (by decide +kernel)

theorem quiet_layered : ∃ settings, load threeFiles sevenPages quietGiven = .ok settings ∧ settings.value? .verbose = some (.switch false) ∧
      settings.value? .maxPages = some (.word 7) ∧ settings.value? .namePrefix = some (.text [0x71]) := by
  have apart : Apart [⟨"help", some 'h', .switch⟩, ⟨"out", some 'o', .text⟩] := by decide
  have parsed : Flags.parse (flags ++ [⟨"help", some 'h', .switch⟩, ⟨"out", some 'o', .text⟩])
      quietArgs = .ok quietGiven := by decide +kernel
  have found : sevenPages.settings = .ok ⟨[], none, 7, 0, none⟩ := by decide +kernel
  obtain ⟨⟨settings, loaded, settled, shown, unsaid⟩, -⟩ :=
    settings_layered threeFiles sevenPages _ _ _ _ _ apart parsed three_settings_read found
  refine ⟨settings, loaded, shown .verbose (.switch false) (by decide) rfl, ?_, ?_⟩
  · rw [settled]
    decide +kernel
  · rw [unsaid .namePrefix (by decide)]
    decide +kernel

theorem empty_prefix_ignored : ∃ settings, Flags.parse flags quietArgs = .ok quietGiven ∧
      explicit? quietGiven .namePrefix = some (.text []) ∧ load threeFiles [] quietGiven = .ok settings ∧ settings.namePrefix ≠ [] := by
  refine ⟨_, by decide +kernel, by decide, load_layers .unset three_settings_read (by decide +kernel), ?_⟩
  decide +kernel

end Configuration

end WasmLua.Command
