import WasmLua.Proofs.Errors.Watch
import WasmLua.Proofs.Link.Resolution

namespace WasmLua.Exec

open HostFunction
open Bytes
variable {ω α : Type}

namespace Watched

open Mirror Twin Stage

variable {raise : Bytes → Raised} {host : HostFunction ω} {args : List HostValue} {own : Store ω} {world : ω} {least : Nat}

def answer (raise : Bytes → Raised) (host : HostFunction ω) (args : List HostValue) : Execution ω (List Value) := do
  let (outcome, world) := host.run args (← get).world
  modify fun store => { store with world }
  match outcome with
  | .ok results => Code.hostResults raise host.label host.signature.results results
  | .error failure => throw failure.raised

lemma answer_ok (ran : host.run args own.world = (.ok results, world)) : answer raise host args own
      = Code.hostResults raise host.label host.signature.results results { own with world } := by
  simp only [answer, bind, EStateM.bind, get, getThe, MonadStateOf.get, EStateM.get, modify, modifyGet,
    MonadStateOf.modifyGet, EStateM.modifyGet, ran]

lemma answer_error {failure : HostFailure} (ran : host.run args own.world = (.error failure, world)) :
    answer raise host args own = .error failure.raised { own with world } := by
  simp only [answer, bind, EStateM.bind, get, getThe, MonadStateOf.get, EStateM.get, modify, modifyGet,
    MonadStateOf.modifyGet, EStateM.modifyGet, ran]
  rfl

lemma answer_follows (raise : Bytes → Raised) (host : HostFunction ω) (args : List HostValue) :
    stage.Follows least Mirror.same.Lists (answer raise host args) (answer raise host.watched args) := by
  rintro own _ rfl enough
  cases ran : host.run args own.world with
  | mk outcome world =>
    cases outcome with
    | ok results =>
      have image : host.watched.run args (own.watched none).world = (.ok results, ⟨world, none⟩) := by
        simp only [watched, HostAction.watched, Store.watched, ran]
      rw [answer_ok ran, answer_ok image]
      exact host_results_follow raise host.label (same_hosts.mpr rfl) { own with world } _ rfl enough
    | error failure =>
      cases failure with
      | returned error =>
        have image : host.watched.run args (own.watched none).world = (.error (.returned error), ⟨world, some error⟩) := by
          simp only [watched, HostAction.watched, Store.watched, ran]
        rw [answer_error ran, answer_error image]
        exact .error (Nat.le_refl _) ⟨some error, rfl, by simp [HostFailure.raised]⟩
      | crash =>
        have image : host.watched.run args (own.watched none).world = (.error .crash, ⟨world, none⟩) := by
          simp only [watched, HostAction.watched, Store.watched, ran]
        rw [answer_error ran, answer_error image]
        exact .error (Nat.le_refl _) ⟨none, rfl, by simp⟩

mutual

lemma literal_watched (literal : Literal) (store : Store ω) : literal.enter (store.watched none)
      = ((literal.enter store).1, (literal.enter store).2.watched none) := by
  cases literal with
  | table entries =>
    simp only [Literal.enter, entries_watched entries .empty store]
    rfl
  | _ => rfl

lemma entries_watched (entries : Entries) (entered : Store.Entered) (store : Store ω) : entries.enter entered (store.watched none)
      = ((entries.enter entered store).1, (entries.enter entered store).2.watched none) := by
  cases entries with
  | none => rfl
  | entry key value rest =>
    simp only [Entries.enter, literal_watched value store]
    exact entries_watched rest _ _

end

lemma values_watched (entries : Entries) (store : Store ω) : entries.values (store.watched none)
      = ((entries.values store).1, (entries.values store).2.watched none) := by
  cases entries with
  | none => rfl
  | entry key value rest => simp only [Entries.values, literal_watched value store, values_watched rest]

lemma embeds : (stage : Stage Mirror.same ω (Watched ω)).Embeds where
  host := by
    intro least raise args images id shows
    obtain rfl := same_lists.mp shows
    refine follows_state ?_
    rintro own _ rfl -
    have found : (own.watched none).hosts[id]? = own.hosts[id]?.map watched := Array.getElem?_map
    rw [found]
    cases own.hosts[id]? with
    | none => exact follows_throw
    | some host =>
      refine follows_bind (host_args_follow raise host.label (same_lists.mpr rfl)) fun _ args _ _ hosts => ?_
      obtain rfl := same_hosts.mp hosts
      refine follows_bind (follows_modify ?_) fun _ _ _ _ _ => answer_follows raise host _
      rintro own _ rfl -
      exact ⟨rfl, Nat.le_refl _⟩
  script := by
    intro least id _
    refine follows_state ?_
    rintro own _ rfl -
    have scripts : (own.watched none).scripts = own.scripts := rfl
    rw [scripts]
    cases own.scripts[id]? with
    | none => exact follows_throw
    | some script =>
      cases script with
      | raising message => exact follows_throw
      | returning results =>
        refine follows_modify_get ?_
        rintro own _ rfl -
        rw [values_watched results own]
        exact ⟨rfl, Nat.le_refl _, same_lists.mpr rfl⟩

end Watched

lemma occurs_iff : occurs part whole = true ↔ part <:+: whole := by
  induction whole with
  | nil => simp [occurs]
  | cons byte rest ih => simp [occurs, ih, List.infix_cons_iff]

namespace Failure

def Marked (text : Bytes) : Prop := ofString trapMark <+: text ∨ ofString linkMark <+: text

def Overflows (text : Bytes) : Prop := ofString "stack overflow" <:+: text ∨ ofString "registry overflow" <:+: text

/-- A text that is taken for a trap of a kind. -/
def ReadsAsTrap (text kind : Bytes) : Prop := text = ofString trapMark ++ kind ∨
    (¬ Marked text ∧ Overflows text ∧ kind = ofString Trap.callStackExhausted.text)

variable {mark : String}

lemma after_mark_some : afterMark? mark text = some rest ↔ text = ofString mark ++ rest := by
  simp only [afterMark?, Option.ite_none_right_eq_some, Option.some.injEq, List.isPrefixOf_iff_prefix]
  constructor
  · rintro ⟨⟨suffix, rfl⟩, rfl⟩
    simp
  · rintro rfl
    simp

variable {text : Bytes}

lemma after_mark_none : afterMark? mark text = none ↔ ¬ ofString mark <+: text := by
  simp only [afterMark?, ite_eq_right_iff, reduceCtorEq, imp_false, List.isPrefixOf_iff_prefix]

lemma reports_overflow_iff (text : Bytes) : reportsOverflow text = true ↔ Overflows text := by
  simp only [reportsOverflow, Bool.or_eq_true, occurs_iff, Overflows]

variable {kind : Bytes}

lemma of_text_trap : ofText (ofString trapMark ++ kind) = .trap kind := by
  simp only [ofText, after_mark_some.mpr rfl]

lemma of_text_link (reason : Bytes) : ofText (ofString linkMark ++ reason) = .link reason := Link.fault_failure reason

lemma of_text_unmarked (unmarked : ¬ Marked text) :
    (Overflows text ∧ ofText text = .trap (ofString Trap.callStackExhausted.text)) ∨
      (¬ Overflows text ∧ ∃ message, ofText text = .raised message) := by
  obtain ⟨noTrap, noLink⟩ := not_or.mp unmarked
  simp only [ofText, after_mark_none.mpr noTrap, after_mark_none.mpr noLink, ofUnmarked]
  by_cases full : reportsOverflow text = true
  · exact .inl ⟨(reports_overflow_iff text).mp full, if_pos full⟩
  · refine .inr ⟨fun overflows => full ((reports_overflow_iff text).mpr overflows), ?_⟩
    rw [if_neg full]
    unfold ofMessage
    split <;> exact ⟨_, rfl⟩

lemma of_text_trap_iff : ofText text = .trap kind ↔ ReadsAsTrap text kind := by
  by_cases marked : Marked text
  · rcases marked with ⟨found, rfl⟩ | ⟨reason, rfl⟩
    · have marked : Marked (ofString trapMark ++ found) := .inl ⟨found, rfl⟩
      simp [of_text_trap, ReadsAsTrap, marked]
    · have marked : Marked (ofString linkMark ++ reason) := .inr ⟨reason, rfl⟩
      have other : ofString linkMark ++ reason ≠ ofString trapMark ++ kind := fun same => Link.marks_differ kind reason same.symm
      simp [of_text_link, ReadsAsTrap, marked, other]
  · have other : text ≠ ofString trapMark ++ kind := fun same => marked (.inl ⟨kind, same.symm⟩)
    rcases of_text_unmarked marked with ⟨full, read⟩ | ⟨room, message, read⟩
    · simp [read, ReadsAsTrap, marked, other, full, eq_comm]
    · simp [read, ReadsAsTrap, other, room]

lemma of_text_link_iff : ofText text = .link reason ↔ text = ofString linkMark ++ reason := by
  constructor
  · intro read
    by_cases marked : Marked text
    · rcases marked with ⟨found, rfl⟩ | ⟨found, rfl⟩
      · rw [of_text_trap] at read
        cases read
      · rw [of_text_link] at read
        cases read
        rfl
    · rcases of_text_unmarked marked with ⟨-, other⟩ | ⟨-, message, other⟩ <;>
        · rw [other] at read
          cases read
  · rintro rfl
    exact of_text_link reason

lemma of_trap_raised {trap : Trap} : ofRaised trap.raised = .trap (ofString trap.text) := by
  cases trap <;> decide +kernel

end Failure

namespace HostError

/-- An error that neither is nor wraps a trap or a link error. -/
def Unclassed (error : HostError) : Prop := (∀ kind, .trap kind ∉ error.chain) ∧ ∀ reason, .link reason ∉ error.chain

lemma trap_none_iff {error : HostError} : error.trap? = none ↔ ∀ kind, .trap kind ∉ error.chain := by
  rw [trap?, List.findSome?_eq_none_iff]
  constructor
  · intro absent kind member
    cases absent _ member
  · intro absent inner member
    cases inner with
    | trap kind => exact absurd member (absent kind)
    | _ => rfl

lemma link_none_iff {error : HostError} : error.link? = none ↔ ∀ reason, .link reason ∉ error.chain := by
  rw [link?, List.findSome?_eq_none_iff]
  constructor
  · intro absent reason member
    cases absent _ member
  · intro absent inner member
    cases inner with
    | link reason => exact absurd member (absent reason)
    | _ => rfl

lemma unclassed_iff (error : HostError) : error.Unclassed ↔ error.trap? = none ∧ error.link? = none := by
  rw [trap_none_iff, link_none_iff, Unclassed]

def reported (error : HostError) : Failure := .ofRaised error.raised

variable {error : HostError}

lemma reported_trap (found : error.trap? = some kind) : error.reported = .trap kind := by
  simp only [reported, raised, found, Failure.ofRaised, text, Failure.of_text_trap]

lemma reported_link (noTrap : error.trap? = none) (found : error.link? = some reason) :
    error.reported = .link reason := by
  simp only [reported, raised, noTrap, found, Failure.ofRaised, text, Failure.of_text_link]

lemma reported_other (unclassed : error.Unclassed) : error.reported = .ofText error.text := by
  obtain ⟨noTrap, noLink⟩ := (unclassed_iff error).mp unclassed
  simp only [reported, raised, noTrap, noLink, Failure.ofRaised]

lemma reported_iff (error : HostError) (text : Bytes) : (error.reported = .trap text ↔
      error.trap? = some text ∨ error.Unclassed ∧ Failure.ReadsAsTrap error.text text) ∧
    (error.reported = .link text ↔ (∀ kind, .trap kind ∉ error.chain) ∧ error.link? = some text ∨
        error.Unclassed ∧ error.text = ofString linkMark ++ text) := by
  rw [← trap_none_iff]
  cases trap : error.trap? with
  | some found =>
    have classed : ¬ error.Unclassed := by simp [unclassed_iff, trap]
    simp [reported_trap trap, classed]
  | none =>
    cases link : error.link? with
    | some found =>
      have classed : ¬ error.Unclassed := by simp [unclassed_iff, link]
      simp [reported_link trap link, classed]
    | none =>
      have unclassed := (unclassed_iff error).mpr ⟨trap, link⟩
      simp [reported_other unclassed, unclassed, Failure.of_text_trap_iff, Failure.of_text_link_iff]

end HostError

def ending {ε σ : Type} : EStateM.Result ε σ α → Except ε α × σ
  | .ok value state => (.ok value, state)
  | .error failure state => (.error failure, state)

/-- A call of an export gets as far as calling a function. -/
def Exports.Enters (exports : Exports) (loaded : Loaded) (name : Bytes) (args : List HostValue) (store : Store ω)
    (function : Value) (values : List Value) (entered : Store ω) : Prop :=
  ∃ entity signature, exports.find loaded name .func = .ok (entity, function) ∧
    Extern.signature entity = .ok signature ∧ args.length = signature.params.length ∧
    Exports.arguments signature.params args store = .ok values entered

variable {store : Store ω}

lemma entered_fails {exports : Exports} {loaded : Loaded} {name : Bytes} {args : List HostValue}
    {entered after : Store ω} {function : Value} {values : List Value} {raised : Raised}
    (enters : exports.Enters loaded name args store function values entered)
    (stopped : loaded.callValue function values entered = .error raised after) :
    exports.call loaded name args store = .error (.ofRaised raised) after := by
  obtain ⟨entity, signature, found, read, length, passed⟩ := enters
  simp only [Exports.call, found, read, length, Embedding.ofExcept, bind, EStateM.bind, pure, EStateM.pure,
    ne_eq, not_true_eq_false, if_false, passed, Embedding.run, stopped]

/-- A call fails when a function of the embedder has returned an error: with a trap when the error
is or wraps one, of the kind found first, and with a link error when it is or wraps one and no trap.
Any other error becomes one of them when its text reads like one. -/
theorem host_errors_classed (exports : Exports) (loaded : Loaded) (name : Bytes) (args : List HostValue)
    (store : Store ω) : (∃ outcome after returned, ending (exports.call loaded name args store) = (outcome, after) ∧
      ending (exports.call loaded name args (store.watched none)) = (outcome, after.watched returned) ∧
      ∀ error, returned = some error → ∃ failure, outcome = .error failure ∧ (∀ kind, failure = .trap kind ↔
          error.trap? = some kind ∨ error.Unclassed ∧ Failure.ReadsAsTrap error.text kind) ∧
        ∀ reason, failure = .link reason ↔ (∀ kind, .trap kind ∉ error.chain) ∧ error.link? = some reason ∨
            error.Unclassed ∧ error.text = Bytes.ofString linkMark ++ reason) ∧ ∀ function values entered after (trap : Trap),
      exports.Enters loaded name args store function values entered → loaded.callValue function values entered = .error trap.raised after →
      exports.call loaded name args store = .error (.trap (Bytes.ofString trap.text)) after := by
  constructor
  · have ends := Stage.export_follows Watched.embeds loaded
      (fun call (_ : exports.value name = .function call) => trivial) (Mirror.same_hosts.mpr (Eq.refl args))
      store (store.watched none) rfl (Nat.le_refl _)
    generalize exports.call loaded name args store = left at ends
    generalize exports.call loaded name args (store.watched none) = right at ends
    cases ends with
    | @ok value _ after _ _ related hosts =>
      obtain rfl := Mirror.same_hosts.mp hosts
      cases related
      exact ⟨.ok _, after, none, rfl, rfl, by simp⟩
    | @error failure after _ _ failed =>
      rcases failed with related | ⟨raised, rfl, returned, rfl, told⟩
      · cases related
        exact ⟨.error failure, after, none, rfl, rfl, by simp⟩
      · refine ⟨.error _, after, returned, rfl, rfl, fun error noted => ⟨_, rfl, ?_⟩⟩
        obtain rfl := told error noted
        exact ⟨fun kind => (error.reported_iff kind).1, fun reason => (error.reported_iff reason).2⟩
  · intro function values entered after trap enters stopped
    rw [entered_fails enters stopped, Failure.of_trap_raised]

def relay (index : Nat) (target : Target.Callee) : Target.Function where
  index := index
  name := ""
  params := 0
  locals := []
  slots := 0
  usesFlag := false
  spilled := false
  body := .next (.act (.call 0 0 target [])) (.next (.ret []) .done)

def relayUnit : Target.Program where
  namePrefix := ""
  functionNames := ["", "", ""]
  cells := []
  name := []
  functionImports := [(0, ⟨[0x65], [0x66]⟩)]
  memories := []
  tables := []
  refs := []
  globals := []
  elements := []
  data := []
  functions := [relay 1 (.imported 0), relay 2 (.defined 1)]
  exports := [([0x67], .function (.defined 2))]
  start := none
  importList := [⟨[0x65], [0x66], .func, [0x70, 0x72], false⟩]
  exportList := [⟨[], [0x67], .func, [0x70, 0x72], false⟩]

def relayLoaded : Loaded :=
  ⟨[], relayUnit.importList, relayUnit.exportList, defaultDepth, .program relayUnit (.ofProgram relayUnit)⟩

def relayExports : Exports := ⟨[([0x67], .function (.defined (.known 0) 2))]⟩

def relayStore (error : HostError) (events : Array Event) : Store Unit where
  objects := #[]
  instances := #[⟨#[.function (.host 0), .null, .null], #[], #[], #[], #[], []⟩]
  hosts := #[⟨[0x65, 0x2e, 0x66], ⟨[], []⟩, fun _ world => (.error (.returned error), world)⟩]
  scripts := #[]
  world := ()
  events := events
  pairs := 1

lemma relay_hosts (error : HostError) (events : Array Event) :
    (relayStore error events).watched returned = { (relayStore error events).watched returned with
          hosts := #[⟨[0x65, 0x2e, 0x66], ⟨[], []⟩, HostAction.watched fun _ world => (.error (.returned error), world)⟩] } := by
  simp [Store.watched, relayStore, watched]

lemma relay_stopped (error : HostError) :
    relayLoaded.callValue (.function (.defined (.known 0) 2)) [] ((relayStore error #[]).watched none)
      = .error error.raised ((relayStore error #[.hostCall [0x65, 0x2e, 0x66] []]).watched (some error)) := by
  rw [relay_hosts]
  rw [relay_hosts error #[.hostCall [0x65, 0x2e, 0x66] []]]
  rfl

lemma relay_fails {error : HostError} : ending (relayExports.call relayLoaded [0x67] [] ((relayStore error #[]).watched none))
      = (.error error.reported, (relayStore error #[.hostCall [0x65, 0x2e, 0x66] []]).watched (some error)) := by
  rw [entered_fails ⟨_, ⟨[], []⟩, rfl, rfl, rfl, rfl⟩ (relay_stopped error)]
  rfl

def wrappedTrap : HostError := .other (ofString "wasm link: x") [.other [] [.link [0x61]], .trap (ofString "unreachable")]

theorem wrapped_trap_reported : ∃ after, ending (relayExports.call relayLoaded [0x67] [] (relayStore wrappedTrap #[]))
      = (.error (.trap (Bytes.ofString "unreachable")), after) := by
  obtain ⟨outcome, after, returned, ended, noted, classed⟩ :=
    (host_errors_classed relayExports relayLoaded [0x67] [] (relayStore wrappedTrap #[])).1
  rw [relay_fails] at noted
  have told : returned = some wrappedTrap := congrArg (·.2.world.returned) noted.symm
  obtain ⟨failure, failed, trapped, -⟩ := classed wrappedTrap told
  have kind : failure = .trap (Bytes.ofString "unreachable") := (trapped _).mpr (.inl rfl)
  exact ⟨after, by rw [ended, failed, kind]⟩

/-- An error that is neither a trap nor a link error, nor wraps one, is reported as a trap. -/
theorem overflow_text_misread : HostError.Unclassed (.other (Bytes.ofString "disk: stack overflow") []) ∧
      ending (relayExports.call relayLoaded [0x67] [] ((relayStore (.other (Bytes.ofString "disk: stack overflow") []) #[]).watched none))
        = (.error (.trap (Bytes.ofString "call stack exhausted")), (relayStore (.other (Bytes.ofString "disk: stack overflow") [])
            #[.hostCall [0x65, 0x2e, 0x66] []]).watched (some (.other (Bytes.ofString "disk: stack overflow") []))) := by
  refine ⟨(HostError.unclassed_iff _).mpr ⟨rfl, rfl⟩, ?_⟩
  have read : HostError.reported (.other (Bytes.ofString "disk: stack overflow") [])
      = .trap (Bytes.ofString "call stack exhausted") := by decide +kernel
  rw [relay_fails, read]

end WasmLua.Exec
