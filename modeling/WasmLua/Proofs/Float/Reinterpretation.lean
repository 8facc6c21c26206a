import WasmLua.Proofs.Integers.Division
import WasmLua.Proofs.Memory.Refinement

namespace WasmLua

def Wasm.FloatType.format : Wasm.FloatType → Format
  | .f32 => .binary32
  | .f64 => .binary64

def Wasm.IntType.width : Wasm.IntType → Nat
  | .i32 => 32
  | .i64 => 64

namespace Format

section Fields

variable {format : Format} {value : Rat}

/-- A multiple of a unit of the format whose significand fits. -/
def Holds (format : Format) (value : Rat) : Prop :=
  ∃ m e : Int, m.natAbs < 2 ^ format.precision ∧ format.minExponent ≤ e ∧ value = m * 2 ^ e

/-- The numbers of a format. -/
def Contains (format : Format) : Number → Prop
  | .finite value => format.Holds value ∧ |value| < 2 ^ (format.maxExponent : Int)
  | _ => True

structure Regular (format : Format) : Prop where
  several : 2 ≤ format.precision
  fine : format.minExponent ≤ 0
  wide : format.minExponent + format.precision ≤ format.maxExponent

lemma regular32 : Regular binary32 := ⟨by decide, by decide, by decide⟩

lemma regular64 : Regular binary64 := ⟨by decide, by decide, by decide⟩

lemma scaled_bound (format : Format) (nonzero : value ≠ 0) :
    |value / 2 ^ format.unitExponent value| < 2 ^ format.precision ∧ (format.unitExponent value ≠ format.minExponent →
        (2 : Rat) ^ (format.precision - 1 : Int) ≤ |value / 2 ^ format.unitExponent value|) := by
  obtain ⟨low, high⟩ := binary_exponent_bounds value nonzero
  have unit := power_positive (format.unitExponent value)
  rw [abs_div, abs_of_pos unit]
  constructor
  · rw [div_lt_iff₀ unit, ← zpow_natCast, ← power_add]
    refine high.trans_le (zpow_le_zpow_right₀ (by norm_num) ?_)
    rw [unitExponent]
    omega
  · intro normal
    rw [le_div_iff₀ unit, ← power_add]
    refine le_trans (zpow_le_zpow_right₀ (by norm_num) ?_) low
    rw [unitExponent] at normal ⊢
    omega

lemma holds_units (holds : format.Holds value) (nonzero : value ≠ 0) :
    ∃ whole : Int, value = whole * 2 ^ format.unitExponent value := by
  obtain ⟨m, e, fits, above, rfl⟩ := holds
  have unit : format.unitExponent ((m : Rat) * 2 ^ e) ≤ e := by
    refine unit_le ?_ fits above
    rintro rfl
    exact nonzero (by simp)
  obtain ⟨k, exponent⟩ := Int.eq_ofNat_of_zero_le (sub_nonneg.mpr unit)
  refine ⟨m * 2 ^ k, ?_⟩
  generalize format.unitExponent ((m : Rat) * 2 ^ e) = u at *
  rw [show e = k + u by omega, power_add, zpow_natCast]
  push_cast
  ring

lemma unit_least (format : Format) (value : Rat) : format.minExponent ≤ format.unitExponent value := le_max_right _ _

variable {number : Number}

lemma magnitude_found (regular : format.Regular) (double : 2 * format.maxExponent = 2 ^ format.exponentBits)
    (inside : format.Contains (.finite value)) : ∃ field fraction, field < 2 ^ format.exponentBits - 1 ∧
      fraction < 2 ^ format.fractionBits ∧ |value| = format.magnitude field fraction := by
  have several := regular.several
  have leading : format.precision = format.fractionBits + 1 := by
    rw [fractionBits]
    omega
  have bias : format.minExponent = 3 - format.maxExponent - format.precision := rfl
  by_cases zero : value = 0
  · refine ⟨0, 0, ?_, Nat.two_pow_pos _, ?_⟩
    · have wide := regular.wide
      omega
    · rw [zero, abs_zero, (magnitude_zero format 0 0).mpr ⟨rfl, rfl⟩]
  obtain ⟨whole, multiple⟩ := holds_units inside.1 zero
  have least := unit_least format value
  obtain ⟨below, normal⟩ := scaled_bound format zero
  generalize format.unitExponent value = unit at *
  have power := power_positive unit
  have scaled : |value / 2 ^ unit| = (whole.natAbs : Rat) := by
    rw [multiple, mul_div_cancel_right₀ _ power.ne', ← Int.cast_abs, Int.abs_eq_natAbs, Int.cast_natCast]
  have size : |value| = (whole.natAbs : Rat) * 2 ^ unit := by
    rw [← scaled, abs_div, abs_of_pos power, div_mul_cancel₀ _ power.ne']
  rw [scaled] at below normal
  have digits : whole.natAbs < 2 ^ format.precision := by exact_mod_cast below
  rw [leading, Nat.pow_succ] at digits
  by_cases full : 2 ^ format.fractionBits ≤ whole.natAbs
  · have bounded : (format.fractionBits : Int) + unit < format.maxExponent := by
      apply power_lt.mp
      calc (2 : Rat) ^ (format.fractionBits + unit : Int) = 2 ^ format.fractionBits * 2 ^ unit := by
            rw [power_add, zpow_natCast]
        _ ≤ whole.natAbs * 2 ^ unit := by
            have : (2 : Rat) ^ format.fractionBits ≤ whole.natAbs := by exact_mod_cast full
            exact mul_le_mul_of_nonneg_right this power.le
        _ < 2 ^ (format.maxExponent : Int) := size ▸ inside.2
    obtain ⟨field, biased⟩ := Int.eq_ofNat_of_zero_le (show 0 ≤ unit - format.minExponent + 1 by omega)
    refine ⟨field, whole.natAbs - 2 ^ format.fractionBits, by omega, by omega, ?_⟩
    have place : format.scale field = unit := by
      rw [scale]
      omega
    rw [size, magnitude, significand, if_neg (by omega), place, Nat.add_sub_cancel' full]
  · have last : unit = format.minExponent := by
      by_contra above
      have top := normal above
      rw [leading, Nat.cast_add, Nat.cast_one, add_sub_cancel_right, zpow_natCast] at top
      exact full (by exact_mod_cast top)
    have place : format.scale 0 = unit := by simp [scale, last]
    refine ⟨0, whole.natAbs, ?_, not_le.mp full, ?_⟩
    · have wide := regular.wide
      omega
    · rw [size, magnitude, significand, if_pos rfl, place]

lemma contains_compose (regular : format.Regular) (double : 2 * format.maxExponent = 2 ^ format.exponentBits)
    (inside : format.Contains number) (known : number ≠ .nan) : ∃ negative field fraction,
      field < 2 ^ format.exponentBits ∧ fraction < 2 ^ format.fractionBits ∧ format.compose negative field fraction = number := by
  have fields := Nat.two_pow_pos format.exponentBits
  have several : 2 ≤ 2 ^ format.exponentBits := by
    have wide := regular.wide
    have bias : format.minExponent = 3 - format.maxExponent - format.precision := rfl
    omega
  cases number with
  | nan => exact absurd rfl known
  | infinity negative =>
    exact ⟨negative, 2 ^ format.exponentBits - 1, 0, by omega, Nat.two_pow_pos _, by rw [compose, if_pos rfl, if_pos rfl]⟩
  | negZero =>
    refine ⟨true, 0, 0, fields, Nat.two_pow_pos _, ?_⟩
    rw [compose_finite _ _ (by omega), if_pos ⟨rfl, rfl, rfl⟩]
  | finite value =>
    obtain ⟨field, fraction, below, cut, size⟩ := magnitude_found regular double inside
    refine ⟨decide (value < 0), field, fraction, by omega, cut, ?_⟩
    rw [compose_finite _ _ (by omega), ← size]
    by_cases negative : value < 0
    · have present : ¬ (field = 0 ∧ fraction = 0 ∧ decide (value < 0) = true) := by
        rintro ⟨rfl, rfl, -⟩
        rw [(magnitude_zero format 0 0).mpr ⟨rfl, rfl⟩, abs_eq_zero] at size
        exact negative.ne size
      rw [if_neg present, if_pos (decide_eq_true negative), abs_of_neg negative, neg_neg]
    · rw [if_neg fun zero => negative (of_decide_eq_true zero.2.2), if_neg (by simpa using negative),
        abs_of_nonneg (not_lt.mp negative)]

lemma contains_decode32 (inside : binary32.Contains number) (known : number ≠ .nan) :
    ∃ bits < 2 ^ 32, binary32.decode bits = number := by
  obtain ⟨negative, field, fraction, below, cut, same⟩ := contains_compose regular32 (by decide) inside known
  change field < 2 ^ 8 at below
  change fraction < 2 ^ 23 at cut
  refine ⟨(if negative then 2 ^ 31 else 0) + field * 2 ^ 23 + fraction, by split <;> omega, ?_⟩
  rw [← same, decode32]
  cases negative <;> congr 1 <;> simp <;> omega

lemma contains_decode64 (inside : binary64.Contains number) (known : number ≠ .nan) :
    ∃ bits < 2 ^ 64, binary64.decode bits = number := by
  obtain ⟨negative, field, fraction, below, cut, same⟩ := contains_compose regular64 (by decide) inside known
  change field < 2 ^ 11 at below
  change fraction < 2 ^ 52 at cut
  refine ⟨(if negative then 2 ^ 63 else 0) + field * 2 ^ 52 + fraction, by split <;> omega, ?_⟩
  rw [← same, decode64]
  cases negative <;> congr 1 <;> simp <;> omega

end Fields

end Format

namespace Wasm.FloatType

/-- The integers that have as many bits. -/
def integers : FloatType → IntType
  | .f32 => .i32
  | .f64 => .i64

/-- The pattern that stands for every NaN. -/
def quiet : FloatType → Nat
  | .f32 => 0x7fc00000
  | .f64 => 0x7ff8000000000000

end Wasm.FloatType

namespace Exec

variable {ω : Type} {context : Context ω}

/-- No function of the unit has taken the name of a value that helpers share. -/
structure Context.Plain (context : Context ω) : Prop where
  negZero : context.code.negZero = none
  zero : context.code.zero = none
  roundEven : context.code.roundEven = none

/-- A unit without functions. -/
def Context.bare : Context Unit := ⟨Code.empty, fun _ _ => pure [], .barred⟩

lemma Context.bare_plain : Context.bare.Plain := ⟨rfl, rfl, rfl⟩

lemma Context.shared_neg_zero (plain : context.Plain) : context.shared.negZero = .number .negZero := by
  simp only [Context.shared, plain.negZero]

lemma lifted_ok {α : Type} {value : α} {result : Except Fault α} (done : result = .ok value) :
    (liftM result : Execution ω α) = pure value := by
  rw [done]
  rfl

/-- How running code holds an integer: 32 bits as a signed number, 64 bits as two unsigned halves. -/
def Represents : Wasm.IntType → Made → Int → Prop
  | .i32, made, n => made = .held (.ofInt (BitVec.ofInt 32 n).toInt)
  | .i64, made, n => I64.Stands made (BitVec.ofInt 64 n)

/-- A pattern as running code holds the integer with the same bits. -/
def Patterned (type : Wasm.FloatType) (made : Made) (bits : Nat) : Prop :=
  bits < 2 ^ type.integers.width ∧ Represents type.integers made bits

namespace Conversion

variable {bits : Nat}

lemma word_bits (inside : bits < 2 ^ 64) : (BitVec.ofInt 64 bits).toNat = bits := by
  rw [BitVec.ofInt_natCast, BitVec.toNat_ofNat, Nat.mod_eq_of_lt inside]

variable {type : Wasm.FloatType}

lemma of_bits (plain : context.Plain) {value : Value}
    (patterned : Patterned type (.held value) bits) : Value.unary context.shared (.convert (.ofBits type.integers)) value
      = pure (.held (.number (type.format.decode bits))) := by
  obtain ⟨inside, represents⟩ := patterned
  cases type with
  | f32 =>
    change bits < 2 ^ 32 at inside
    obtain rfl : value = .ofInt (BitVec.ofInt 32 bits).toInt := by
      injection represents
    have reads : (BitVec.ofInt 32 bits).toInt % 2 ^ 32 = bits := by
      have residue := Int.bmod_emod (x := bits) (m := 2 ^ 32)
      rw [BitVec.toInt_ofInt]
      omega
    have decoded := of_bits32_decode bits reads
    refine lifted_ok ?_
    change Made.held <$> ofBits32 context.shared.negZero (Value.number (.ofInt _)) = _
    rw [Context.shared_neg_zero plain, decoded]
    rfl
  | f64 =>
    change bits < 2 ^ 64 at inside
    have word := word_bits inside
    have parts := I64.half_parts (BitVec.ofInt 64 bits)
    have decoded := of_bits64_decode parts.2.1 parts.2.2 represents
    rw [word] at parts
    rw [show I64.highHalf (BitVec.ofInt 64 bits) * 2 ^ 32 + I64.lowHalf (BitVec.ofInt 64 bits) = bits by omega] at decoded
    refine lifted_ok ?_
    change Made.held <$> ofBits64 context.shared.negZero (Made.held value) = _
    rw [Context.shared_neg_zero plain, decoded]
    rfl

lemma canonical_bits (type : Wasm.FloatType) (bits : Nat) :
    type.format.canonical bits = if type.format.decode bits = .nan then type.quiet else bits := by
  have pattern : type.format.encode .nan = type.quiet := by cases type <;> decide
  rw [Format.canonical, pattern]

lemma to_bits (inside : bits < 2 ^ type.integers.width) : ∃ made,
    Value.unary context.shared (.convert (.toBits type.integers)) (.number (type.format.decode bits)) = pure made ∧
      Patterned type made (if type.format.decode bits = .nan then type.quiet else bits) := by
  have small : (if type.format.decode bits = .nan then type.quiet else bits) < 2 ^ type.integers.width := by
    split
    · cases type <;> decide
    · exact inside
  rw [← canonical_bits] at small ⊢
  cases type with
  | f32 =>
    refine ⟨_, lifted_ok (congrArg (Made.held <$> ·) (bits32_decode inside)), small, ?_⟩
    change _ = Made.held (.ofInt (BitVec.ofInt 32 _).toInt)
    rw [BitVec.toInt_ofInt]
    rfl
  | f64 =>
    refine ⟨_, lifted_ok (bits64_decode inside), small, ?_⟩
    change I64.Stands _ (BitVec.ofInt 64 _)
    rw [I64.Stands, I64.lowHalf, I64.highHalf, word_bits small]
    rfl

lemma contains_decode {number : Number} (inside : type.format.Contains number)
    (known : number ≠ .nan) : ∃ bits < 2 ^ type.integers.width, type.format.decode bits = number := by
  cases type with
  | f32 => exact Format.contains_decode32 inside known
  | f64 => exact Format.contains_decode64 inside known

end Conversion

namespace Memory

open Wasm (little littleBytes)

lemma window_patched (content : Nat → UInt8) (start : Nat) (new : Bytes) :
    window (patched content start new) start new.length = new := by
  apply List.ext_getElem
  · simp [window]
  · intro index first second
    simp [window, patched, second]

lemma little_little_bytes (width value : Nat) : little (littleBytes width value) = value % 256 ^ width := by
  induction width generalizing value with
  | zero => simp [little, littleBytes, Nat.mod_one]
  | succ width continues =>
    rw [littleBytes, little, continues, byte_value, Nat.pow_succ', Nat.mod_mul]

variable (type : Wasm.FloatType)

lemma canonical_decode (bits : Nat) : type.format.decode (type.format.canonical bits) = type.format.decode bits := by
  rw [Conversion.canonical_bits]
  split
  · rename_i none
    rw [none]
    cases type <;> decide
  · rfl

variable {memory : Memory} {image : Wasm.Linear} {number : Number}

lemma decode_found (inside : type.format.Contains number) :
    ∃ bits < 2 ^ type.integers.width, type.format.decode bits = number := by
  by_cases known : number = .nan
  · subst known
    exact ⟨type.quiet, by cases type <;> decide, by cases type <;> decide⟩
  · exact Conversion.contains_decode inside known

lemma load_float (bytes : Bytes) : Made.ofWord (.float type) ((Wasm.Load.full (.float type)).word bytes)
      = .held (.number (type.format.decode (little bytes % 2 ^ type.integers.width))) := by
  cases type <;> rfl

lemma store_float {bits : Nat} (inside : bits < 2 ^ type.integers.width) :
    ∃ word : BitVec (Wasm.Store.full (.float type)).type.bits,
      Value.ofWord (.float type) 0 word = .number (type.format.decode bits) ∧
      storedBytes (.full (.float type)) word = littleBytes (type.integers.width / 8) (type.format.canonical bits) := by
  refine ⟨BitVec.ofNat _ bits, ?_, ?_⟩
  · cases type <;> exact congrArg (Value.number ∘ Format.decode _) (BitVec.toNat_ofNat .. |>.trans (Nat.mod_eq_of_lt inside))
  · cases type <;> exact congrArg (littleBytes _ ∘ Format.canonical _) (BitVec.toNat_ofNat .. |>.trans (Nat.mod_eq_of_lt inside))

lemma write_load (refines : memory.Refines image) {type : Wasm.FloatType} {bits : Nat}
    (inside : bits < 2 ^ type.integers.width) {address : Int} {offset : UInt32}
    (fits : start address offset + type.integers.width / 8 ≤ image.bytes.length) :
    (writeFrom (.ofInt (start address offset)) 0 (littleBytes (type.integers.width / 8) bits) memory).load
      (.number .negZero) (.full (.float type)) (.ofInt address) offset = .ok (.held (.number (type.format.decode bits))) := by
  have small := image.length_le
  have width : (Wasm.Load.full (.float type)).width = type.integers.width / 8 := by cases type <;> rfl
  have listed : Wasm.Load.full (.float type) ∈ Wasm.Load.all := by cases type <;> decide
  have whole : 256 ^ (type.integers.width / 8) = 2 ^ type.integers.width := by cases type <;> rfl
  have long : (littleBytes (type.integers.width / 8) bits).length = type.integers.width / 8 := Wasm.little_bytes_length bits
  have shows := refines.shows.writeFrom (start address offset) 0 (start address offset)
    (littleBytes (type.integers.width / 8) bits) (by omega) (by omega) small
  have sized : (writeFrom (.ofInt (start address offset)) 0 (littleBytes (type.integers.width / 8) bits) memory).size
      = memory.size := congrArg (fun measures => measures.2.1) (writeFrom_measures memory 0)
  have reads := window_patched (image.bytes.getD · 0) (start address offset) (littleBytes (type.integers.width / 8) bits)
  rw [long] at reads
  rw [load_word shows (sized.trans refines.sized) small address offset listed, width, if_pos fits, reads]
  refine congrArg Except.ok ((load_float type _).trans ?_)
  rw [little_little_bytes, whole, Nat.mod_mod, Nat.mod_eq_of_lt inside]

lemma store_load_float (refines : memory.Refines image) {type : Wasm.FloatType}
    (inside : type.format.Contains number) {address : Int} {offset : UInt32}
    (fits : start address offset + type.integers.width / 8 ≤ image.bytes.length) :
    ∃ write, Memory.store memory.size (.full (.float type)) (.ofInt address) offset (.number number) = .ok write ∧
      (write memory).load (.number .negZero) (.full (.float type)) (.ofInt address) offset = .ok (.held (.number number)) := by
  obtain ⟨bits, below, rfl⟩ := decode_found type inside
  obtain ⟨word, value, bytes⟩ := store_float type below
  have width : (Wasm.Store.full (.float type)).width = type.integers.width / 8 := by cases type <;> rfl
  have canonical : type.format.canonical bits < 2 ^ type.integers.width := by
    rw [Conversion.canonical_bits]
    split
    · cases type <;> decide
    · exact below
  refine ⟨_, ?_, (write_load refines canonical fits).trans ?_⟩
  · rw [refines.sized, ← value]
    refine (store_word image.bytes.length address offset).trans ?_
    rw [width, if_pos fits, bytes]
  · rw [canonical_decode]

end Memory

/-- Reading a pattern as a float and a float as a pattern are inverse to each other but for NaN, which
has one pattern; a float that is stored is the one that is loaded. -/
theorem patterns_round_trip (plain : context.Plain) (type : Wasm.FloatType) : (∀ bits value, Patterned type (.held value) bits →
      Value.unary context.shared (.convert (.ofBits type.integers)) value = pure (.held (.number (type.format.decode bits)))) ∧
    (∀ bits < 2 ^ type.integers.width, ∃ made,
      Value.unary context.shared (.convert (.toBits type.integers)) (.number (type.format.decode bits)) = pure made ∧
      Patterned type made (if type.format.decode bits = .nan then type.quiet else bits)) ∧
    (∀ number, type.format.Contains number → number ≠ .nan → ∃ made bits,
      Value.unary context.shared (.convert (.toBits type.integers)) (.number number) = pure made ∧
      Patterned type made bits ∧ ∀ value, Patterned type (.held value) bits →
        Value.unary context.shared (.convert (.ofBits type.integers)) value = pure (.held (.number number))) ∧
    ∀ (memory : Memory) (image : Wasm.Linear) (number : Number) (address : Int) (offset : UInt32),
      memory.Refines image → type.format.Contains number →
      Memory.start address offset + type.integers.width / 8 ≤ image.bytes.length → ∃ write,
        Memory.store memory.size (.full (.float type)) (.ofInt address) offset (.number number) = .ok write ∧
        (write memory).load context.shared.negZero (.full (.float type)) (.ofInt address) offset
          = .ok (.held (.number number)) := by
  refine ⟨fun bits value => Conversion.of_bits plain, fun bits => Conversion.to_bits, ?_, ?_⟩
  · intro number inside known
    obtain ⟨bits, below, rfl⟩ := Conversion.contains_decode inside known
    obtain ⟨made, found, patterned⟩ := Conversion.to_bits below
    rw [if_neg known] at patterned
    exact ⟨made, bits, found, patterned, fun value => Conversion.of_bits plain⟩
  · intro memory image number address offset refines inside fits
    rw [Context.shared_neg_zero plain]
    exact Memory.store_load_float refines inside fits

theorem patterns_negative_zero : Value.unary Context.bare.shared (.convert (.ofBits .i32)) (.ofInt (-2147483648))
    = pure (.held (.number .negZero)) := by
  have pattern : Patterned .f32 (.held (.ofInt (-2147483648))) 0x80000000 := ⟨by decide, rfl⟩
  have zero : Format.binary32.decode 0x80000000 = .negZero := by
    rw [Format.decode32, Format.compose_finite _ _ (by decide), if_pos (by decide)]
  have read := (patterns_round_trip Context.bare_plain .f32).1 _ _ pattern
  rwa [Wasm.FloatType.format, zero] at read

end Exec

end WasmLua
