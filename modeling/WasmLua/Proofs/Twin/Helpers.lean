import WasmLua.Proofs.Twin.Simulation

/-!
Helpers that round. Where a function has taken the place of the rounding to an integer, they call
it, so that they run on a store.
-/

namespace WasmLua.Exec.Stage

open Mirror Twin Floating FloatNumeric Numeric

variable {ω ω' : Type} {mirror : Mirror} {stage : Stage mirror ω ω'} {least : Nat}
  {shared : Shared (Execution ω) Value Made} {shared' : Shared (Execution ω') Value Made}

/-- The values and the function that helpers share, in both runs. -/
structure Shares (stage : Stage mirror ω ω') (shared : Shared (Execution ω) Value Made)
    (shared' : Shared (Execution ω') Value Made) : Prop where
  negZero : ∀ limit, mirror.Shows limit shared.negZero shared'.negZero
  zero : ∀ limit, 0 < limit → mirror.Makes limit shared.zero shared'.zero
  roundEven : ∀ least value image, mirror.Shows least value image →
    stage.Follows least mirror.Shows (shared.roundEven value) (shared'.roundEven image)

variable {b b' : Value} {made other : Made}

section Uniform

variable {value image : Value}

lemma uniform_same {α : Type} {limit : Nat} (run : ∀ f : NumericMap (Local mirror limit) Value,
      PairMap f (LocalMade mirror limit) Made → α) {result : α} (uniform : ∀ f g, run f g = result) :
    run _ (LocalMade.renamed mirror limit) = run _ (LocalMade.kept mirror limit) := by
  rw [uniform, uniform]

lemma special_shown (shows : mirror.Shows least value image) : isSpecial image = isSpecial value := by
  obtain ⟨inside, rfl⟩ := shows
  exact uniform_same (fun f _ => isSpecial (f.map ⟨value, inside⟩)) fun f _ => f.is_special _

lemma zero_shown (shows : mirror.Shows least value image) : isZero image = isZero value := by
  obtain ⟨inside, rfl⟩ := shows
  exact uniform_same (fun f _ => isZero (f.map ⟨value, inside⟩)) fun f _ => f.is_zero _

variable {negZero negZero' : Value}

section

variable (negZeros : mirror.Shows least negZero negZero')

include negZeros

lemma zero_like_matched (shows : mirror.Shows least value image) :
    Matched (mirror.Shows least) (zeroLike negZero value) (zeroLike negZero' image) := by
  obtain ⟨below, rfl⟩ := negZeros
  obtain ⟨inside, rfl⟩ := shows
  exact uniform_value (fun f _ => zeroLike (f.map ⟨negZero, below⟩) (f.map ⟨value, inside⟩)) fun f _ => f.zero_like _ _

lemma float_neg_matched (shows : mirror.Shows least value image) :
    Matched (mirror.Shows least) (neg negZero value) (neg negZero' image) := by
  obtain ⟨below, rfl⟩ := negZeros
  obtain ⟨inside, rfl⟩ := shows
  exact uniform_value (fun f _ => neg (f.map ⟨negZero, below⟩) (f.map ⟨value, inside⟩)) fun f _ => f.float_neg _ _

lemma binary64_matched (op : Wasm.FloatBinary)
    (left : mirror.Shows least value image) (right : mirror.Shows least b b') :
    Matched (mirror.Shows least) (binary64 negZero op value b) (binary64 negZero' op image b') := by
  obtain ⟨below, rfl⟩ := negZeros
  obtain ⟨inside, rfl⟩ := left
  obtain ⟨also, rfl⟩ := right
  exact uniform_value (fun f _ => binary64 (f.map ⟨negZero, below⟩) op (f.map ⟨value, inside⟩)
    (f.map ⟨b, also⟩)) fun f _ => f.binary64 _ op _ _

end

end Uniform

variable {value image : Value}

section

variable (shares : stage.Shares shared shared')

include shares

lemma fround_follows (shows : mirror.Shows least value image) :
    stage.Follows least mirror.Shows (shared.fround value) (shared'.fround image) := by
  have parts : frexp image = frexp value := by
    obtain ⟨inside, rfl⟩ := shows
    exact uniform_same (fun f _ => frexp (f.map ⟨value, inside⟩)) fun f _ => f.frexp _
  unfold Shared.fround froundWith
  rw [special_shown shows, parts]
  refine follows_ite (follows_pure fun count le => shows_mono le shows) ?_
  refine follows_same same_follows fun count scaled le => ?_
  have shows := shows_mono le shows
  refine follows_ite (value_follows (zero_like_matched (shares.negZero _) shows)) ?_
  refine follows_bind (shares.roundEven _ _ _ shows_number) fun count rounded other le both => ?_
  have shows := shows_mono le shows
  have scale (exponent : Int) : ldexp other exponent = ldexp rounded exponent := by
    obtain ⟨inside, rfl⟩ := both
    exact uniform_same (fun f _ => ldexp (f.map ⟨rounded, inside⟩) exponent) fun f _ => f.ldexp _ _
  rw [zero_shown both, scale]
  refine follows_ite (value_follows (zero_like_matched (shares.negZero _) shows)) ?_
  refine follows_same same_follows fun count result le => ?_
  exact follows_pure fun _ _ => shows_number

lemma nearest_follows (shows : mirror.Shows least value image) :
    stage.Follows least mirror.Shows (shared.nearest value) (shared'.nearest image) := by
  have negative : lt image zero = lt value zero := by
    obtain ⟨inside, rfl⟩ := shows
    exact uniform_same (fun f _ => lt (f.map ⟨value, inside⟩) (f.map zero)) fun f _ => f.lt _ _
  unfold Shared.nearest nearestWith
  rw [special_shown shows, negative]
  refine follows_ite (follows_pure fun count le => shows_mono le shows) ?_
  refine follows_bind (shares.roundEven _ _ _ shows) fun count rounded other _ both => ?_
  have kept : stage.Follows count mirror.Shows (pure rounded : Execution ω Value) (pure other) :=
    follows_pure fun count le => shows_mono le both
  rw [zero_shown both]
  refine follows_ite ?_ kept
  refine follows_same same_follows fun count below le => ?_
  exact follows_ite (follows_pure fun count _ => shares.negZero count) (follows_weaken le kept)

lemma float_unary_follows (type : Wasm.FloatType)
    (op : Wasm.FloatUnary) (shows : mirror.Shows least value image) :
    stage.Follows least mirror.Shows (shared.floatUnary type op value) (shared'.floatUnary type op image) := by
  have negated := float_neg_matched (shares.negZero least) shows
  have nearest := nearest_follows shares shows
  obtain ⟨inside, rfl⟩ := shows
  let own : Local mirror least := ⟨value, inside⟩
  cases op with
  | abs => exact value_follows (uniform_value (fun f _ => abs (f.map own)) fun f _ => f.abs _)
  | neg => exact value_follows negated
  | ceil => exact value_follows (uniform_value (fun f _ => ceil (f.map own)) fun f _ => f.ceil _)
  | floor => exact value_follows (uniform_value (fun f _ => floor (f.map own)) fun f _ => f.floor _)
  | trunc =>
    exact value_follows (uniform_value (fun f _ => truncate (f.map own)) fun f _ => f.truncate)
  | nearest => exact nearest
  | sqrt =>
    have root := uniform_value (fun f _ => sqrt (f.map own)) fun f _ => f.sqrt _
    refine follows_bind (value_follows root) fun count result other _ both => ?_
    cases type with
    | f32 => exact fround_follows shares both
    | f64 => exact follows_pure fun _ le => shows_mono le both

lemma float_binary_follows (type : Wasm.FloatType)
    (op : Wasm.FloatBinary) (left : mirror.Shows least value image) (right : mirror.Shows least b b') :
    stage.Follows least mirror.Shows (shared.floatBinary type op value b) (shared'.floatBinary type op image b') := by
  have result := binary64_matched (shares.negZero least) op left right
  refine follows_bind (value_follows result) fun count result other _ both => ?_
  have kept : stage.Follows count mirror.Shows (pure result : Execution ω Value) (pure other) :=
    follows_pure fun _ le => shows_mono le both
  cases type with
  | f32 => exact follows_ite (fround_follows shares both) kept
  | f64 => exact kept

lemma of_i32_follows (type : Wasm.FloatType) (sign : Wasm.Sign)
    (shows : mirror.Shows least value image) : stage.Follows least mirror.Shows (shared.ofI32 type sign value)
      (shared'.ofI32 type sign image) := by
  have kept : stage.Follows least mirror.Shows (pure value : Execution ω Value) (pure image) :=
    follows_pure fun _ le => shows_mono le shows
  obtain ⟨inside, rfl⟩ := shows
  let own : Local mirror least := ⟨value, inside⟩
  have plain := uniform_value (fun f _ => plain (f.map own)) fun f _ => f.plain
  have unsigned := uniform_value (fun f _ => I32.unsigned (f.map own)) fun f _ => f.unsigned _
  cases type with
  | f32 =>
    cases sign with
    | signed => exact follows_bind (value_follows plain) fun _ _ _ _ both => fround_follows shares both
    | unsigned =>
      exact follows_bind (value_follows unsigned) fun _ _ _ _ both => fround_follows shares both
  | f64 =>
    cases sign with
    | signed => exact kept
    | unsigned => exact value_follows unsigned

lemma unsigned_to_f32_follows (makes : mirror.Makes least made other) :
    stage.Follows least mirror.Shows (shared.unsignedToF32 made) (shared'.unsignedToF32 other) := by
  obtain ⟨inside, rfl⟩ := makes
  let pair : LocalMade mirror least := ⟨made, inside⟩
  have low := uniform_value (fun _ g => Pairing.low (g.map pair)) fun _ g => g.low _
  have high := uniform_value (fun _ g => Pairing.high (g.map pair)) fun _ g => g.high _
  refine follows_bind (value_follows low) fun count lower lower' le left => ?_
  refine follows_bind (follows_weaken le (value_follows high)) fun count upper upper' le right => ?_
  obtain ⟨below, rfl⟩ := shows_mono le left
  obtain ⟨above, rfl⟩ := right
  have narrowed := uniform_value (fun f _ => Conversion.narrow (f.map ⟨lower, below⟩) (f.map ⟨upper, above⟩)) fun f _ => f.narrow
  exact follows_bind (value_follows narrowed) fun _ _ _ _ both => fround_follows shares both

lemma of_i64_follows (positive : 0 < least) (type : Wasm.FloatType)
    (sign : Wasm.Sign) (makes : mirror.Makes least made other) : stage.Follows least mirror.Shows (shared.ofI64 type sign made)
      (shared'.ofI64 type sign other) := by
  have unsigned := unsigned_to_f32_follows shares makes
  obtain ⟨zeroInside, zeroSame⟩ := shares.zero least positive
  obtain ⟨inside, rfl⟩ := makes
  let pair : LocalMade mirror least := ⟨made, inside⟩
  cases type with
  | f32 =>
    cases sign with
    | signed =>
      have negative : I64.isNegative (made.rename mirror.names) = I64.isNegative made :=
        uniform_same (fun _ g => I64.isNegative (g.map pair)) fun _ g => g.is_negative _
      have negated : Matched (mirror.Makes least) (I64.neg shared.zero made)
          (I64.neg (shared.zero.rename mirror.names) (made.rename mirror.names)) :=
        uniform_made (fun _ g => I64.neg (g.map ⟨shared.zero, zeroInside⟩) (g.map pair)) fun _ g => g.neg
      rw [← zeroSame] at negated
      unfold Shared.ofI64
      rw [negative]
      refine follows_same same_follows fun count below le => ?_
      refine follows_ite ?_ (follows_weaken le unsigned)
      refine follows_bind (follows_weaken le (made_follows negated)) fun count size size' _ both => ?_
      refine follows_bind (unsigned_to_f32_follows shares both) fun count result image _ shown => ?_
      obtain ⟨within, rfl⟩ := shown
      exact value_follows (uniform_value (fun f _ => neg (f.map ⟨result, within⟩)) fun f _ => f.neg _)
    | unsigned => exact unsigned
  | f64 =>
    exact value_follows (uniform_value (fun _ g => Conversion.i64ToF64 sign (g.map pair)) fun _ g => g.to_f64 _ _)

end

lemma held_follows {action : Execution ω Value} {other : Execution ω' Value}
    (follows : stage.Follows least mirror.Shows action other) :
    stage.Follows least mirror.Makes (Made.held <$> action) (Made.held <$> other) :=
  follows_map follows fun _ _ _ => makes_held

lemma unary_follows (shares : stage.Shares shared shared') (positive : 0 < least) (op : Target.Unary)
    (shows : mirror.Shows least value image) : stage.Follows least mirror.Makes (Value.unary shared op value)
      (Value.unary shared' op image) := by
  have makes : mirror.Makes least (.held value) (.held image) := makes_held shows
  have answer (yes : Bool) : stage.Follows least mirror.Makes
      (pure (Made.ofBool yes) : Execution ω Made) (pure (Made.ofBool yes)) :=
    follows_pure fun _ _ => makes_held shows_number
  have reshaped (op : Wasm.Conversion) := reshape_matched (shares.negZero least) (shares.zero least positive) op shows
  cases op with
  | intTest type =>
    cases type with
    | i32 =>
      have zero : image.isZero = value.isZero := zero_shown shows
      simp only [Value.unary, zero]
      exact answer _
    | i64 =>
      obtain ⟨inside, rfl⟩ := shows
      exact made_follows (matched_bool (uniform_same (fun _ g => I64.isZero (g.map ⟨.held value, inside⟩)) fun _ g => g.is_zero _))
  | int type op =>
    obtain ⟨inside, rfl⟩ := shows
    cases type with
    | i32 =>
      exact made_follows (matched_held (uniform_value (fun f _ => I32.unary op (f.map ⟨value, inside⟩)) fun f _ => f.word_unary op _))
    | i64 =>
      exact made_follows (uniform_made (fun _ g => I64.unary op (g.map ⟨.held value, inside⟩)) fun _ g => g.unary op _)
  | float type op => exact held_follows (float_unary_follows shares type op shows)
  | isNull =>
    have null : (image == .null) = (value == .null) := by
      rw [Bool.eq_iff_iff, beq_iff_eq, beq_iff_eq]
      exact null_shown shows
    simp only [Value.unary, null]
    exact answer _
  | convert op =>
    cases op with
    | convert type width sign =>
      cases width with
      | i32 => exact held_follows (of_i32_follows shares type sign shows)
      | i64 => exact held_follows (of_i64_follows shares positive type sign makes)
    | demote => exact held_follows (fround_follows shares shows)
    | promote => exact made_follows (reshaped .promote)
    | _ => exact made_follows (reshaped _)

lemma binary_follows (shares : stage.Shares shared shared') (positive : 0 < least) (op : Target.Binary)
    (left : mirror.Shows least value image) (right : mirror.Shows least b b') :
    stage.Follows least mirror.Makes (Value.binary shared op value b) (Value.binary shared' op image b') := by
  cases op with
  | int type op => exact made_follows (integer_matched (shares.zero least positive) type op left right)
  | float type op => exact held_follows (float_binary_follows shares type op left right)
  | floatCompare type op =>
    obtain ⟨inside, rfl⟩ := left
    obtain ⟨also, rfl⟩ := right
    exact made_follows (matched_bool (uniform_same (fun f _ => I32.ordered op (f.map ⟨value, inside⟩)
      (f.map ⟨b, also⟩)) fun f _ => f.ordered op _ _))
  | intCompare type op =>
    obtain ⟨inside, rfl⟩ := left
    obtain ⟨also, rfl⟩ := right
    cases type with
    | i32 =>
      exact made_follows (matched_bool (uniform_same (fun f _ => I32.compare op (f.map ⟨value, inside⟩)
        (f.map ⟨b, also⟩)) fun f _ => f.word_compare op _ _))
    | i64 =>
      exact made_follows (matched_bool (uniform_same (fun _ g => I64.compare op (g.map ⟨.held value, inside⟩)
        (g.map ⟨.held b, also⟩)) fun _ g => g.compare op _ _))

end WasmLua.Exec.Stage
