import WasmLua.Exec.Store
import WasmLua.Proofs.Twin.Uniform

/-!
Two runs side by side: which values the first one may hold, and what the second one holds in their
place, where pairs have other identities.
-/

namespace WasmLua.Exec

open Value FloatNumeric Numeric

/-- Other identities for pairs. The zero of 64 bits, which every instance shares, keeps its own. -/
structure Renaming where
  name : Nat → Nat
  injective : ∀ first second, name first = name second → first = second
  zero : name 0 = 0

namespace Renaming

def identity : Renaming := ⟨id, fun _ _ same => same, rfl⟩

end Renaming

section Rename

variable (names : Renaming)

def Value.rename : Value → Value
  | .pair id low high => .pair (names.name id) (rename low) (rename high)
  | value => value

def Made.rename : Made → Made
  | .held value => .held (value.rename names)
  | .fresh low high => .fresh (low.rename names) (high.rename names)

def HostValue.rename : HostValue → HostValue
  | .held value => .held (value.rename names)
  | value => value

end Rename

lemma Value.rename_identity (value : Value) : value.rename .identity = value := by
  induction value with
  | pair id low high lower upper =>
    rw [rename, lower, upper]
    rfl
  | _ => rfl

lemma HostValue.rename_identity (value : HostValue) : value.rename .identity = value := by
  cases value with
  | held value => exact congrArg held (Value.rename_identity value)
  | _ => rfl

def Made.All (holds : Value → Prop) : Made → Prop
  | .held value => holds value
  | .fresh low high => holds low ∧ holds high

def HostValue.All (holds : Value → Prop) : HostValue → Prop
  | .held value => holds value
  | _ => True

/-- The values that may come up once some number of pairs has been made, the owners and functions that they
lead to, and the tables that belong together. -/
structure Mirror where
  names : Renaming
  inside : Nat → Value → Prop
  owns : Owner → Prop
  calls : Callable → Prop
  tables : Nat → Table → Table → Prop
  records : Prop
  mono : ∀ {limit larger value}, limit ≤ larger → inside limit value → inside larger value
  null : ∀ {limit}, inside limit .null
  number : ∀ {limit number}, inside limit (.number number)
  helper : ∀ {limit function}, inside limit (.function (.unbound function))
  zero : ∀ {limit}, 0 < limit → inside limit zeroPair
  halves : ∀ {limit id low high}, inside limit (.pair id low high) → inside limit low ∧ inside limit high
  function : ∀ {limit call}, inside limit (.function call) → calls call
  ref : ∀ {limit owner function key call}, inside limit (.ref owner function key call) → calls call
  fieldless : ∀ {settable}, owns (.fieldless settable)
  barred : owns .barred
  unbound : ∀ {function}, calls (.unbound function)
  defined : ∀ {owner function}, calls (.defined owner function) ↔ owns owner
  larger : ∀ {limit larger table image}, limit ≤ larger → tables limit table image → tables larger table image
  size : ∀ {limit table image}, tables limit table image → image.size = table.size
  maximum : ∀ {limit table image}, tables limit table image → image.maximum = table.maximum
  element : ∀ {limit table image}, tables limit table image → ∀ index,
    inside limit (table.element index) ∧ image.element index = (table.element index).rename names
  put : ∀ {limit table image value}, tables limit table image → inside limit value → ∀ index,
    tables limit (table.put index value) (image.put index (value.rename names))
  resize : ∀ {limit table image}, tables limit table image → ∀ size,
    tables limit { table with size } { image with size }

namespace Value

variable {a b : Value} {plain signed : Number → Number → Number}

section Rename

variable (names : Renaming)

lemma rename_inj : a.rename names = b.rename names ↔ a = b := by
  refine ⟨fun same => ?_, fun same => same ▸ rfl⟩
  induction a generalizing b with
  | pair id low high lower upper =>
    cases b with
    | pair id' low' high' =>
      obtain ⟨identity, left, right⟩ := pair.inj same
      rw [names.injective _ _ identity, lower left, upper right]
    | _ => cases same
  | _ =>
    cases b with
    | pair id' low' high' => cases same
    | _ => exact same

@[simp] lemma rename_to_number : (a.rename names).toNumber = a.toNumber := by
  cases a <;> rfl

lemma rename_same (a b : Value) : same (a.rename names) (b.rename names) = same a b := by
  by_cases numbers : (∃ x, a = .number x) ∧ ∃ y, b = .number y
  · obtain ⟨⟨x, rfl⟩, y, rfl⟩ := numbers
    rfl
  · have plain (a b : Value) (other : ¬ ((∃ x, a = .number x) ∧ ∃ y, b = .number y)) : same a b = decide (a = b) := by
      unfold same
      split
      · exact absurd ⟨⟨_, rfl⟩, _, rfl⟩ other
      · rfl
    have renamed (a : Value) (x : Number) : a.rename names = .number x → a = .number x := by
      cases a with
      | pair id low high => exact nofun
      | _ => exact id
    rw [plain a b numbers, plain (a.rename names) (b.rename names)]
    · exact decide_eq_decide.mpr (rename_inj names)
    · rintro ⟨⟨x, left⟩, y, right⟩
      exact numbers ⟨⟨x, renamed a x left⟩, y, renamed b y right⟩

lemma rename_lt (a b : Value) : lt (a.rename names) (b.rename names) = lt a b := by
  cases a <;> cases b <;> rfl

lemma rename_le (a b : Value) : le (a.rename names) (b.rename names) = le a b := by
  cases a <;> cases b <;> rfl

lemma rename_to_int (a : Value) : (a.rename names).toInt? = a.toInt? := by
  cases a <;> rfl

end Rename

def Numeral (result : Except Fault Value) : Prop := ∃ number, result = Value.number <$> number

lemma numeral_of_number {change : Number → Number} {number : Except Fault Number} :
    Numeral (do return .number (change (← number))) := by
  refine ⟨change <$> number, ?_⟩
  cases number <;> rfl

lemma numeral_of_numbers (change : Number → Number → Number) :
    Numeral (do return .number (change (← first) (← second))) := by
  refine ⟨do return change (← first) (← second), ?_⟩
  cases first with
  | error fault => rfl
  | ok x => cases second <;> rfl

lemma numeral_arith : Numeral (arith plain signed a b) := by
  unfold arith
  split
  · exact ⟨.ok _, rfl⟩
  · exact numeral_of_numbers signed

lemma numeral_neg : Numeral a.neg := by
  unfold neg
  split
  · exact ⟨.ok _, rfl⟩
  · split
    · exact ⟨.ok _, rfl⟩
    · exact ⟨.error _, rfl⟩

lemma numeral_inside {mirror : Mirror} {limit : Nat} {result : Except Fault Value}
    (numeral : Numeral result) (value : Value) (made : result = .ok value) : mirror.inside limit value := by
  obtain ⟨number, rfl⟩ := numeral
  cases number with
  | error fault => cases made
  | ok number =>
    cases made
    exact mirror.number

lemma arith_rename (names : Renaming) (a b : Value) :
    arith plain signed (a.rename names) (b.rename names) = arith plain signed a b := by
  cases a <;> cases b <;> rfl

lemma neg_rename (names : Renaming) (a : Value) : neg (a.rename names) = neg a := by
  cases a <;> rfl

end Value

def Local (mirror : Mirror) (limit : Nat) := { value : Value // mirror.inside limit value }

namespace Local

variable {mirror : Mirror} {limit : Nat}

def lift (result : Except Fault Value) (inside : ∀ value, result = .ok value → mirror.inside limit value) :
    Except Fault (Local mirror limit) :=
  match result, inside with
  | .ok value, inside => .ok ⟨value, inside value rfl⟩
  | .error fault, _ => .error fault

variable {result : Except Fault Value}

lemma lift_val :
    result = Subtype.val <$> lift result inside := by
  cases result <;> rfl

def number (result : Except Fault Value) (numeral : Value.Numeral result) :
    Except Fault (Local mirror limit) := lift result (Value.numeral_inside numeral)

instance : FloatNumeric (Local mirror limit) where
  ofInt value := ⟨.ofInt value, mirror.number⟩
  toInt? a := a.val.toInt?
  eq a b := a.val.same b.val
  lt a b := a.val.lt b.val
  le a b := a.val.le b.val
  add a b := number (add a.val b.val) Value.numeral_arith
  sub a b := number (sub a.val b.val) Value.numeral_arith
  mul a b := number (mul a.val b.val) Value.numeral_arith
  div a b := number (div a.val b.val) Value.numeral_arith
  mod a b := number (mod a.val b.val) Value.numeral_arith
  fmod a b := number (fmod a.val b.val) (numeral_of_numbers _)
  floor a := number (floor a.val) numeral_of_number
  ceil a := number (ceil a.val) numeral_of_number
  ofNumber value := ⟨.number value, mirror.number⟩
  neg a := number (FloatNumeric.neg a.val) Value.numeral_neg
  abs a := number (abs a.val) numeral_of_number
  sqrt a := number (sqrt a.val) numeral_of_number
  frexp a := frexp a.val
  ldexp a exponent := ldexp a.val exponent

def kept (mirror : Mirror) (limit : Nat) : NumericMap (Local mirror limit) Value where
  map := Subtype.val
  ofInt _ := rfl
  ofNumber _ := rfl
  toInt? _ := rfl
  eq _ _ := rfl
  lt _ _ := rfl
  le _ _ := rfl
  add _ _ := lift_val
  sub _ _ := lift_val
  mul _ _ := lift_val
  div _ _ := lift_val
  mod _ _ := lift_val
  fmod _ _ := lift_val
  floor _ := lift_val
  ceil _ := lift_val
  neg _ := lift_val
  abs _ := lift_val
  sqrt _ := lift_val
  frexp _ := rfl
  ldexp _ _ := rfl

lemma number_renamed (same : renamed = result) :
    renamed = (fun a : Local mirror limit => a.val.rename mirror.names) <$> number result numeral := by
  subst same
  obtain ⟨outcome, rfl⟩ := numeral
  cases outcome <;> rfl

lemma map_renamed {names : Renaming} {operation : Number → Number} (a : Value) :
    map operation (a.rename names) = map operation a := by
  rw [map, rename_to_number]
  rfl

def renamed (mirror : Mirror) (limit : Nat) : NumericMap (Local mirror limit) Value where
  map := fun a => a.val.rename mirror.names
  ofInt _ := rfl
  ofNumber _ := rfl
  toInt? a := rename_to_int mirror.names a.val
  eq a b := rename_same mirror.names a.val b.val
  lt a b := rename_lt mirror.names a.val b.val
  le a b := rename_le mirror.names a.val b.val
  add a b := number_renamed (arith_rename _ a.val b.val)
  sub a b := number_renamed (arith_rename _ a.val b.val)
  mul a b := number_renamed (arith_rename _ a.val b.val)
  div a b := number_renamed (arith_rename _ a.val b.val)
  mod a b := number_renamed (arith_rename _ a.val b.val)
  fmod a b := number_renamed (by simp [fmod])
  floor a := number_renamed (map_renamed a.val)
  ceil a := number_renamed (map_renamed a.val)
  neg a := number_renamed (neg_rename _ a.val)
  abs a := number_renamed (map_renamed a.val)
  sqrt a := number_renamed (map_renamed a.val)
  frexp a := by simp [frexp]
  ldexp a exponent := by simp [ldexp]

end Local

namespace Value

variable {mirror : Mirror} {limit : Nat}

variable {value : Value}

lemma halves_inside (inside : mirror.inside limit value) (found : value.halves = .ok (low, high)) :
    mirror.inside limit low ∧ mirror.inside limit high := by
  cases value with
  | pair id lower upper =>
    cases found
    exact mirror.halves inside
  | _ => cases found <;> exact ⟨mirror.null, mirror.null⟩

lemma halves_rename {names : Renaming} :
    (value.rename names).halves = Prod.map (rename names) (rename names) <$> value.halves := by
  cases value <;> rfl

end Value

def LocalMade (mirror : Mirror) (limit : Nat) := { made : Made // made.All (mirror.inside limit) }

namespace LocalMade

variable {mirror : Mirror} {limit : Nat}

variable {side : Value × Value → Value}

lemma half_inside (made : LocalMade mirror limit)
    (either : ∀ pair, side pair = pair.1 ∨ side pair = pair.2)
    (found : side <$> made.val.halves = .ok value) : mirror.inside limit value := by
  have both (pair : Value × Value) (halves : made.val.halves = .ok pair) :
      mirror.inside limit pair.1 ∧ mirror.inside limit pair.2 := by
    obtain ⟨held | ⟨lower, upper⟩, inside⟩ := made
    · exact halves_inside inside halves
    · cases halves
      exact inside
  cases halves : made.val.halves with
  | error fault =>
    rw [halves] at found
    cases found
  | ok pair =>
    rw [halves] at found
    cases found
    rcases either pair with first | second
    · exact first ▸ (both pair halves).1
    · exact second ▸ (both pair halves).2

instance : Pairing (Local mirror limit) (LocalMade mirror limit) where
  pack low high := ⟨.fresh low.val high.val, low.property, high.property⟩
  low made := Local.lift (Pairing.low made.val) fun _ => made.half_inside fun _ => .inl rfl
  high made := Local.lift (Pairing.high made.val) fun _ => made.half_inside fun _ => .inr rfl

def kept (mirror : Mirror) (limit : Nat) : PairMap (Local.kept mirror limit) (LocalMade mirror limit) Made where
  map := Subtype.val
  pack _ _ := rfl
  low _ := Local.lift_val
  high _ := Local.lift_val

lemma half_renamed {made : Made}
    (natural : ∀ pair, side (Prod.map (rename mirror.names) (rename mirror.names) pair) = (side pair).rename mirror.names)
    {inside : ∀ value, side <$> made.halves = .ok value → mirror.inside limit value} :
    side <$> (made.rename mirror.names).halves =
      (fun a : Local mirror limit => a.val.rename mirror.names) <$> Local.lift (side <$> made.halves) inside := by
  have halves : (made.rename mirror.names).halves = Prod.map (rename mirror.names) (rename mirror.names) <$> made.halves := by
    cases made with
    | held value => exact halves_rename
    | fresh low high => rfl
  rw [halves]
  generalize made.halves = outcome at inside ⊢
  cases outcome with
  | error fault => rfl
  | ok pair => exact congrArg Except.ok (natural pair)

def renamed (mirror : Mirror) (limit : Nat) : PairMap (Local.renamed mirror limit) (LocalMade mirror limit) Made where
  map := fun made => made.val.rename mirror.names
  pack _ _ := rfl
  low _ := half_renamed fun _ => rfl
  high _ := half_renamed fun _ => rfl

end LocalMade

end WasmLua.Exec
