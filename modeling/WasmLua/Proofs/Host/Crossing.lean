import WasmLua.Exec.Native
import WasmLua.Proofs.Float.Reinterpretation

namespace WasmLua.Exec

open Number
open NativeType
open Format (binary32 binary64)

namespace HostValue

/-- A float is a number of its format. -/
def Typed : HostValue → Prop
  | .float32 number => binary32.Contains number
  | .float64 number => binary64.Contains number
  | _ => True

def integer : HostValue → Int
  | .int32 value => value.toInt
  | .uint32 value => value.toNat
  | .int value | .int64 value => value.toInt
  | .uint64 value => value.toNat
  | _ => 0

/-- A value as one of a type: integers in two's complement, and no reference but the null one as null. -/
def reduced (value : HostValue) : Wasm.ValueType → HostValue
  | .i32 => .int32 (Int32.ofInt value.integer)
  | .i64 => .int64 (Int64.ofInt value.integer)
  | .f64 =>
    match value with
    | .float32 number => .float64 number
    | value => value
  | .funcref | .externref =>
    match value with
    | .held value => ofReference value
    | value => value
  | _ => value

end HostValue

/-- The representations of the values of a type, when `pairs` gives the halves of a value. -/
def Represented (pairs : Value → Option (Pair Number)) (value : Value) : Wasm.ValueType → Prop
  | .i32 => ∃ whole : Int, -2 ^ 31 ≤ whole ∧ whole < 2 ^ 31 ∧ value = .ofInt whole
  | .i64 => ∃ low high : Nat, low < 2 ^ 32 ∧ high < 2 ^ 32 ∧ pairs value = some ⟨.ofInt low, .ofInt high⟩
  | .f32 => ∃ number, binary32.Contains number ∧ value = .number number
  | .f64 => ∃ number, binary64.Contains number ∧ value = .number number
  | .funcref | .externref => True
  | _ => False

lemma whole_int64 (low : -2 ^ 63 ≤ whole) (high : whole < 2 ^ 63) : (ofInt whole).toInt64 = Int64.ofInt whole := by
  have same : ((whole : Rat).num).tdiv ((whole : Rat).den) = whole := by simp
  simp only [toInt64, ofInt, same]
  rw [if_pos (by omega)]

lemma format_kept {format : Format} {number : Number} (inside : format.Contains number) : number.toFormat format = number := by
  cases number with
  | finite value =>
    obtain ⟨⟨m, e, fits, above, same⟩, below⟩ := inside
    have kept : format.round value = .finite value := by
      refine Format.round_of_nearest ?_ below
      rw [same]
      exact Format.nearest_dyadic fits above
    simp only [toFormat, roundSigned, kept]
    rw [if_neg]
    rw [Bool.and_eq_true, beq_iff_eq, decide_eq_true_iff]
    omega
  | _ => rfl

lemma word_kept (word : Int32) : (Int64.ofInt word.toInt).toInt32 = word := by
  have low := word.le_toInt
  have high := word.toInt_lt
  apply Int32.toInt_inj.mp
  rw [Int64.toInt_toInt32, Int64.toInt_ofInt_of_le (by omega) (by omega), Int.bmod_eq_of_le (by omega) (by omega)]

lemma halves_joined {low high : Nat} (lower : low < 2 ^ 32) (upper : high < 2 ^ 32) :
    ((ofInt high).toUInt64 <<< 32 ||| (ofInt low).toUInt64).toNat = low + 2 ^ 32 * high := by
  rw [UInt64.toNat_or, UInt64.toNat_shiftLeft, Operation.size_of_nat (by omega), Operation.size_of_nat (by omega)]
  have shifted : high <<< ((32 : UInt64).toNat % 64) % 2 ^ 64 = high <<< 32 := by
    rw [show (32 : UInt64).toNat % 64 = 32 from rfl, Nat.shiftLeft_eq]
    omega
  rw [shifted, ← Nat.shiftLeft_add_eq_or_of_lt lower, Nat.shiftLeft_eq]
  omega

namespace HostValue

variable {ω : Type} {made : Made} {type : Wasm.ValueType} {value : HostValue} {pairs : Value → Option (Pair Number)}

lemma i32_taken (taken : value.toValue .i32 = .ok made) : made = i32Of (Int32.ofInt value.integer) := by
  cases value <;> cases taken
  · simp [integer]
  · refine congrArg i32Of (Int32.toBitVec_inj.mp ?_)
    simp [integer]
  · refine congrArg i32Of (Int32.toBitVec_inj.mp ?_)
    simp [integer]

lemma i64_taken (taken : value.toValue .i64 = .ok made) : made = pairOf (Int64.ofInt value.integer).toUInt64 := by
  cases value <;> cases taken
  · simp [integer]
  · simp [integer]
  · refine congrArg pairOf (UInt64.toBitVec_inj.mp ?_)
    simp [integer]

lemma i32_crosses (word : Int32) : Represented pairs (.ofInt word.toInt) .i32 ∧
    ofValue pairs .i32 (.ofInt word.toInt) = .ok (.int32 word) := by
  have low := word.le_toInt
  have high := word.toInt_lt
  refine ⟨⟨word.toInt, low, high, rfl⟩, ?_⟩
  show Except.ok (int32 (ofInt word.toInt).toInt64.toInt32) = _
  rw [whole_int64 (by omega) (by omega), word_kept]

lemma pair_halves (word : UInt64) : pairOf word
    = .fresh (.ofInt (word.toNat % 2 ^ 32 : Nat)) (.ofInt (word.toNat / 2 ^ 32 : Nat)) := by
  have size := word.toNat_lt
  have upper : (word >>> 32).toUInt32.toNat = word.toNat / 2 ^ 32 := by
    rw [UInt64.toNat_toUInt32, UInt64.toNat_shiftRight]
    simp [Nat.shiftRight_eq_div_pow]
    omega
  rw [pairOf, upper, UInt64.toNat_toUInt32]

lemma i64_crosses (word : UInt64) (store : Store ω) :
    Represented (store.make (pairOf word)).2.pair? (store.make (pairOf word)).1 .i64 ∧
      ofValue (store.make (pairOf word)).2.pair? .i64 (store.make (pairOf word)).1 = .ok (.int64 word.toInt64) := by
  have size := word.toNat_lt
  have lower : word.toNat % 2 ^ 32 < 2 ^ 32 := Nat.mod_lt _ (by decide)
  have upper : word.toNat / 2 ^ 32 < 2 ^ 32 := by omega
  have joined : (ofInt (word.toNat / 2 ^ 32 : Nat)).toUInt64 <<< 32
      ||| (ofInt (word.toNat % 2 ^ 32 : Nat)).toUInt64 = word := by
    apply UInt64.toNat_inj.mp
    rw [halves_joined lower upper]
    omega
  rw [pair_halves]
  exact ⟨⟨_, _, lower, upper, rfl⟩, congrArg (fun word : UInt64 => Except.ok (int64 word.toInt64)) joined⟩

lemma wider (inside : binary32.Contains number) : binary64.Contains number := by
  cases number with
  | finite value =>
    obtain ⟨⟨m, e, fits, above, same⟩, below⟩ := inside
    refine ⟨⟨m, e, Nat.lt_trans fits (by decide), le_trans (by decide) above, same⟩, below.trans ?_⟩
    exact zpow_lt_zpow_right₀ (by norm_num) (by decide)
  | _ => trivial

/-- What code gets for a value of the embedder is a value of the type, which comes back reduced to it. -/
lemma value_crosses (typed : value.Typed) (taken : value.toValue type = .ok made) (store : Store ω) :
    Represented (store.make made).2.pair? (store.make made).1 type ∧
      ofValue (store.make made).2.pair? type (store.make made).1 = .ok (value.reduced type) := by
  cases type with
  | i32 =>
    rw [i32_taken taken]
    exact i32_crosses _
  | i64 =>
    rw [i64_taken taken]
    exact i64_crosses _ store
  | f32 =>
    cases value <;> cases taken
    exact ⟨⟨_, typed, rfl⟩, congrArg (Except.ok ∘ HostValue.float32) (format_kept typed)⟩
  | f64 =>
    cases value <;> cases taken
    · exact ⟨⟨_, wider typed, rfl⟩, rfl⟩
    · exact ⟨⟨_, typed, rfl⟩, rfl⟩
  | funcref | externref => cases value <;> cases taken <;> exact ⟨trivial, rfl⟩
  | any | other byte => cases value <;> cases taken

/-- A value is another one of the type, or a pair with the same halves. -/
def Restored (pairs : Value → Option (Pair Number)) (value other : Value) : Wasm.ValueType → Prop
  | .i64 => ∃ id low high, other = .pair id (.number low) (.number high) ∧ pairs value = some ⟨low, high⟩
  | _ => other = value

def Returns (ω : Type) (pairs : Value → Option (Pair Number)) (type : Wasm.ValueType) (value : Value) (host : HostValue) : Prop :=
  ofValue pairs type value = .ok host ∧
    ∃ made, host.toValue type = .ok made ∧ ∀ store : Store ω, Restored pairs value (store.make made).1 type

lemma represented_returns {value : Value} (shaped : Represented pairs value type) : ∃ host, Returns ω pairs type value host := by
  cases type with
  | i32 =>
    obtain ⟨whole, low, high, rfl⟩ := shaped
    refine ⟨_, rfl, _, rfl, fun store => congrArg Value.ofInt ?_⟩
    rw [whole_int64 (by omega) (by omega)]
    rw [Int64.toInt_toInt32, Int64.toInt_ofInt_of_le (by omega) (by omega), Int.bmod_eq_of_le (by omega) (by omega)]
  | i64 =>
    obtain ⟨low, high, lower, upper, found⟩ := shaped
    refine ⟨_, by rw [ofValue, found], _, rfl, fun store => ⟨store.pairs, _, _, ?_, found⟩⟩
    have joined := halves_joined lower upper
    rw [pair_halves, UInt64.toUInt64_toInt64, joined, show (low + 2 ^ 32 * high) % 2 ^ 32 = low by omega,
      show (low + 2 ^ 32 * high) / 2 ^ 32 = high by omega]
    rfl
  | f32 =>
    obtain ⟨number, inside, rfl⟩ := shaped
    refine ⟨.float32 number, ?_, _, rfl, fun _ => rfl⟩
    exact congrArg (Except.ok ∘ HostValue.float32) (format_kept inside)
  | f64 =>
    obtain ⟨number, inside, rfl⟩ := shaped
    exact ⟨.float64 number, rfl, _, rfl, fun _ => rfl⟩
  | funcref | externref => cases value <;> exact ⟨_, rfl, _, rfl, fun _ => rfl⟩
  | any | other byte => cases shaped

lemma give_take {native : NativeType} {value : Value} {host : HostValue} (known : native.valueType? = some type)
    (found : ofValue pairs type value = .ok host) : give (native.take host) = host := by
  cases native <;> cases known
  case int64 | uint64 =>
    simp only [ofValue] at found
    split at found <;> cases found
    simp [give, take]
  all_goals
    cases value <;> cases found
    simp [give, take]

end HostValue

namespace Code

open HostValue

variable {ω : Type} {types : List Wasm.ValueType} {hosts : List HostValue} {args : List Value}
  {pairs : Value → Option (Pair Number)}

lemma cons_runs {α β : Type} {action : α → Execution ω β} {item : α} {items : List α} {store middle after : Store ω}
    {first : β} {others : List β} (head : action item store = .ok first middle)
    (tail : items.mapM action middle = .ok others after) :
    (item :: items).mapM action store = .ok (first :: others) after := by
  rw [List.mapM_cons]
  change EStateM.bind (action item) _ store = _
  rw [EStateM.bind, head]
  change EStateM.bind (items.mapM action) _ middle = _
  rw [EStateM.bind, tail]
  rfl

lemma args_cross {store : Store ω} {action : Wasm.ValueType × Nat → Execution ω HostValue} (passed : Nat)
    (reads : ∀ type i host, ofValue store.pair? type (args.getD i .null) = .ok host → action (type, i) store = .ok host store)
    (shaped : List.Forall₂ (Represented store.pair?) (args.drop passed) types) :
    ∃ hosts, (types.zipIdx passed).mapM action store = .ok hosts store ∧
      List.Forall₂ (fun host given => Returns ω store.pair? given.1 given.2 host) hosts (types.zip (args.drop passed)) := by
  -- By induction on the types, of which `passed` are done.
  induction types generalizing passed with
  | nil => exact ⟨[], rfl, by rw [List.zip_nil_left]; exact .nil⟩
  | cons type types ih =>
    obtain ⟨arg, rest, here, others, drop⟩ := List.forall₂_cons_right_iff.mp shaped
    have after : args.drop (passed + 1) = rest := by rw [← List.tail_drop, drop, List.tail_cons]
    have found : args.getD passed .null = arg := by
      rw [List.getD_eq_getElem?_getD, ← Nat.add_zero passed, ← List.getElem?_drop, drop]
      rfl
    obtain ⟨host, returns⟩ := represented_returns here
    obtain ⟨hosts, run, all⟩ := ih (passed + 1) (after ▸ others)
    rw [drop, List.zip_cons_cons, List.zipIdx_cons, ← after]
    exact ⟨host :: hosts, cons_runs (reads _ _ _ (found ▸ returns.1)) run, .cons returns all⟩

lemma host_args_cross (raise : Bytes → Raised) (label : Bytes) (store : Store ω)
    (shaped : List.Forall₂ (Represented store.pair?) args types) :
    ∃ hosts, hostArgs raise label types args store = .ok hosts store ∧
      List.Forall₂ (fun host given => Returns ω store.pair? given.1 given.2 host) hosts (types.zip args) := by
  refine args_cross 0 (fun type i host read => ?_) shaped
  simp only [read]
  rfl

lemma results_cross {action : (Wasm.ValueType × HostValue) × Nat → Execution ω Value} (store : Store ω) (passed : Nat)
    (makes : ∀ type host i made, host.toValue type = .ok made → action ((type, host), i) = Execution.make made)
    (returns : List.Forall₂ (fun host given => Returns ω pairs given.1 given.2 host) hosts (types.zip args))
    (length : types.length = args.length) :
    ∃ results after, ((types.zip hosts).zipIdx passed).mapM action store = .ok results after ∧
      List.Forall₂ (fun result given => Restored pairs given.2 result given.1) results (types.zip args) := by
  induction types generalizing store passed hosts args with
  | nil =>
    rw [List.zip_nil_left] at returns ⊢
    exact ⟨[], store, rfl, .nil⟩
  | cons type types ih =>
    obtain ⟨arg, args, rfl⟩ := List.exists_cons_of_length_eq_add_one length.symm
    obtain ⟨host, hosts, ⟨-, made, taken, same⟩, others, rfl⟩ := List.forall₂_cons_right_iff.mp returns
    obtain ⟨results, after, run, all⟩ := ih (store.make made).2 (passed + 1) others (Nat.succ.inj length)
    refine ⟨(store.make made).1 :: results, after, ?_, .cons (same store) all⟩
    rw [List.zip_cons_cons, List.zipIdx_cons]
    exact cons_runs (by rw [makes _ _ _ _ taken]; rfl) run

variable {natives : List NativeType}

lemma taken_given (typed : List.Forall₂ (fun native type => native.valueType? = some type) natives types)
    (returns : List.Forall₂ (fun host given => Returns ω pairs given.1 given.2 host) hosts (types.zip args))
    (length : types.length = args.length) :
    (List.zipWith take natives hosts).map give = hosts := by
  induction typed generalizing hosts args with
  | nil =>
    rw [List.zip_nil_left] at returns
    cases returns
    rfl
  | cons known _ ih =>
    obtain ⟨arg, args, rfl⟩ := List.exists_cons_of_length_eq_add_one length.symm
    obtain ⟨host, hosts, ⟨found, -⟩, others, rfl⟩ := List.forall₂_cons_right_iff.mp returns
    rw [List.zipWith_cons_cons, List.map_cons, give_take known found, ih others (Nat.succ.inj length)]

lemma value_types_found (fault : NativeType → WrapFault)
    (typed : List.Forall₂ (fun native type => native.valueType? = some type) natives types) :
    Native.valueTypes fault natives = .ok types := by
  unfold Native.valueTypes
  induction typed with
  | nil => rfl
  | cons known _ ih =>
    rw [List.mapM_cons, known, ih]
    rfl

/-- Values of the embedder cross into code as values of the type and come back reduced to it, and the
values of code come back as they were. So a function of the embedder that returns its arguments, of
whatever number types, returns to code what code passed. -/
theorem host_values_cross {ω : Type} (store : Store ω) :
    (∀ (type : Wasm.ValueType) (value : HostValue) (made : Made), value.Typed → value.toValue type = .ok made →
      Represented (store.make made).2.pair? (store.make made).1 type ∧
        ofValue (store.make made).2.pair? type (store.make made).1 = .ok (value.reduced type)) ∧
    (∀ (type : Wasm.ValueType) (value : Value), Represented store.pair? value type →
      ∃ host, Returns ω store.pair? type value host) ∧
    ∀ (natives : List NativeType) (types : List Wasm.ValueType),
      List.Forall₂ (fun native type => native.valueType? = some type) natives types →
      ∃ run, Native.wrap ⟨natives, natives, fun args world => (.ok args, world)⟩ = .ok (.host ⟨types, types⟩ run) ∧
        ∀ raise label id args, store.hosts[id]? = some ⟨label, ⟨types, types⟩, run⟩ →
          List.Forall₂ (Represented store.pair?) args types →
          ∃ results after, callHost raise id args store = .ok results after ∧
            List.Forall₂ (fun result given => Restored store.pair? given.2 result given.1) results (types.zip args) := by
  refine ⟨fun type value made typed taken => value_crosses typed taken store,
    fun type value shaped => represented_returns shaped, fun natives types typed => ?_⟩
  refine ⟨_, by rw [Native.wrap, value_types_found _ typed, value_types_found _ typed]; rfl, ?_⟩
  intro raise label id args found shaped
  have length : types.length = args.length := shaped.length_eq.symm
  obtain ⟨hosts, passed, returns⟩ := host_args_cross raise label store shaped
  have counted : hosts.length = types.length := by
    rw [returns.length_eq, List.length_zip, length, Nat.min_self]
  have reached : callHost raise id args store = hostResults raise label types hosts
      { store with events := store.events.push (.hostCall label hosts) } := by
    simp only [callHost, bind, EStateM.bind, get, getThe, MonadStateOf.get, EStateM.get, modify, modifyGet,
      MonadStateOf.modifyGet, EStateM.modifyGet, found, passed, taken_given typed returns length]
  rw [reached, hostResults, if_neg (by simp [counted])]
  exact results_cross _ 0 (fun type host i made read => by simp only [read]) returns length

/-- A store with a host function that returns its arguments. -/
def echoStore : Store Unit :=
  match Native.wrap ⟨[.uint32, .uint64, .float32], [.uint32, .uint64, .float32], fun args world => (.ok args, world)⟩ with
  | .ok (.host signature run) => { Store.empty () with hosts := #[⟨[], signature, run⟩] }
  | _ => .empty ()

/-- The largest words and the negative zero. -/
def echoArgs : List Value := [.ofInt (-1), .pair 0 (.number (.ofInt 7)) (.number (.ofInt 4294967295)), .number .negZero]

theorem echo_crosses :
    ofValue (echoStore.make (i32Of (-1))).2.pair? .i32 (echoStore.make (i32Of (-1))).1 = .ok (.int32 (-1)) ∧
    (∃ host, Returns Unit echoStore.pair? .f32 (.number .negZero) host) ∧
    ∃ results after, callHost .located 0 echoArgs echoStore = .ok results after ∧
      List.Forall₂ (fun result given => Restored echoStore.pair? given.2 result given.1) results ([.i32, .i64, .f32].zip echoArgs) := by
  obtain ⟨given, held, called⟩ := host_values_cross echoStore
  refine ⟨(given .i32 (.uint32 4294967295) _ trivial rfl).2, held .f32 _ ⟨.negZero, trivial, rfl⟩, ?_⟩
  obtain ⟨run, wrapped, crosses⟩ := called [.uint32, .uint64, .float32] [.i32, .i64, .f32] (.cons rfl (.cons rfl (.cons rfl .nil)))
  refine crosses .located [] 0 echoArgs ?_ (.cons ?_ (.cons ?_ (.cons ?_ .nil)))
  · cases wrapped
    rfl
  · exact ⟨-1, by decide, by decide, rfl⟩
  · exact ⟨7, 4294967295, by decide, by decide, rfl⟩
  · exact ⟨.negZero, trivial, rfl⟩

end Code

end WasmLua.Exec
