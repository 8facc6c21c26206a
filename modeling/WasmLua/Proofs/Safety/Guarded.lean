import WasmLua.Proofs.Body.Operations

namespace WasmLua.Compile

open List

inductive Stop (ε : Type) where
  | fault (error : ε)
  | crash
deriving DecidableEq, Repr

def Stop.map {ε φ : Type} (change : ε → φ) : Stop ε → Stop φ
  | .fault error => .fault (change error)
  | .crash => .crash

abbrev Guarded (ε : Type) := Except (Stop ε)

namespace Guarded

variable {ε φ α β : Type}

def refuse (fault : ε) : Guarded ε α := .error (.fault fault)

def fetch (items : List α) (position : Nat) : Guarded ε α :=
  match items[position]? with
  | some item => .ok item
  | none => .error .crash

def lookup (items : List α) (position : Nat) (fault : ε) : Guarded ε α :=
  if items.length ≤ position then refuse fault else fetch items position

def minus (whole part : Nat) : Guarded ε Nat :=
  if part ≤ whole then .ok (whole - part) else .error .crash

lemma bind_value {value : α} {next : α → Guarded ε β} : ((.ok value : Guarded ε α) >>= next) = next value := rfl

variable {item : α} {position : Nat} {items : List α} {guarded : Guarded ε α} {plain : Except ε α} {next : α → Guarded ε β}

lemma fetch_held (items : List α) (position : Nat) (held : items[position]? = some item) :
    (fetch items position : Guarded ε α) = .ok item := by
  rw [fetch, held]

lemma fetch_inside (items : List α) (inside : position < items.length) :
    (fetch items position : Guarded ε α) = .ok (items.get ⟨position, inside⟩) :=
  fetch_held items position (List.getElem?_eq_getElem inside)

lemma lookup_held (fault : ε) (held : items[position]? = some item) : lookup items position fault = .ok item := by
  obtain ⟨inside, -⟩ := List.getElem?_eq_some_iff.mp held
  rw [lookup, if_neg (Nat.not_le.mpr inside), fetch_held items position held]

lemma lookup_missing (fault : ε) (missing : items[position]? = none) : lookup items position fault = refuse fault := by
  rw [lookup, if_pos (List.getElem?_eq_none_iff.mp missing)]

lemma minus_le {whole part : Nat} (fits : part ≤ whole) : (minus whole part : Guarded ε Nat) = .ok (whole - part) := by
  rw [minus, if_pos fits]

def put (items : List α) (position : Nat) (item : α) : Guarded ε (List α) :=
  if position < items.length then .ok (items.set position item) else .error .crash

def slice (items : List α) (first last : Nat) : Guarded ε (List α) :=
  if first ≤ last ∧ last ≤ items.length then .ok ((items.take last).drop first) else .error .crash

lemma fetched_range (items : List α) (count : Nat) (inside : count ≤ items.length) :
    (range count).mapM (fetch items : Nat → Guarded ε α) = .ok (items.take count) := by
  induction count with
  | zero => rfl
  | succ count ih =>
    have last := fetch_inside (ε := ε) items inside
    rw [range_succ, mapM_append, ih (by omega), mapM_cons, last, mapM_nil, take_succ_eq_append_getElem inside]
    rfl

class Reports (ε : Type) where
  reported : ε → Prop

/-- A guarded computation ends as a plain one does, with a result that satisfies a condition or with
a fault that may be reported. -/
structure Mirrors [Reports ε] (holds : α → Prop) (guarded : Guarded ε α) (plain : Except ε α) : Prop where
  same : guarded = plain.mapError .fault
  result : ∀ value, plain = .ok value → holds value
  fault : ∀ fault, plain = .error fault → Reports.reported fault

abbrev Tracks [Reports ε] : Guarded ε α → Except ε α → Prop := Mirrors fun _ => True

section Mirrors

variable [Reports ε] [Reports φ] {holds : α → Prop} {after : β → Prop}

lemma mirrors_value (value : α) (held : holds value) : Mirrors holds (.ok value : Guarded ε α) (.ok value) := by
  refine ⟨rfl, ?_, nofun⟩
  rintro _ ⟨⟩
  exact held

lemma mirrors_refuse (fault : ε) (reported : Reports.reported fault) : Mirrors holds (refuse fault) (.error fault) := by
  refine ⟨rfl, nofun, ?_⟩
  rintro _ ⟨⟩
  exact reported

lemma mirrors_ite {condition : Prop} [Decidable condition] {other : Guarded ε α} {later : Except ε α}
    (chosen : condition → Mirrors holds guarded plain) (otherwise : ¬ condition → Mirrors holds other later) :
    Mirrors holds (if condition then guarded else other) (if condition then plain else later) := by
  split
  case isTrue met => exact chosen met
  case isFalse unmet => exact otherwise unmet

lemma mirrors_check {condition : Prop} [Decidable condition] (fault : ε) (reported : Reports.reported fault)
    (passed : ¬ condition → Mirrors holds guarded plain) :
    Mirrors holds (if condition then refuse fault else guarded) (if condition then .error fault else plain) :=
  mirrors_ite (fun _ => mirrors_refuse fault reported) passed

lemma mirrors_bind {rest : α → Except ε β} (first : Mirrors holds guarded plain)
    (follows : ∀ value, holds value → Mirrors after (next value) (rest value)) :
    Mirrors after (guarded >>= next) (plain >>= rest) := by
  obtain ⟨rfl, result, reported⟩ := first
  cases plain with
  | error fault => exact mirrors_refuse fault (reported fault rfl)
  | ok value => exact follows value (result value rfl)

lemma tracks_value (value : α) : Tracks (.ok value : Guarded ε α) (.ok value) := mirrors_value value trivial

lemma tracks_map {change : α → β} (first : Mirrors holds guarded plain) :
    Tracks (guarded >>= fun value => .ok (change value)) (plain >>= fun value => .ok (change value)) :=
  mirrors_bind first fun value _ => tracks_value (change value)

lemma mirrors_plain (plain : Except ε α) (reported : ∀ fault, plain = .error fault → Reports.reported fault) :
    Tracks (plain.mapError .fault) plain :=
  ⟨rfl, fun _ _ => trivial, reported⟩

lemma mirrors_guard {guard : Guarded ε α} (value : α) {plain : Except ε β} (passed : guard = .ok value)
    (follows : Mirrors after (next value) plain) : Mirrors after (guard >>= next) plain := by
  rw [passed]
  exact follows

lemma mirrors_map {change : ε → φ} (mirrored : Mirrors holds guarded plain)
    (reports : ∀ fault, Reports.reported fault → Reports.reported (change fault)) :
    Mirrors holds (guarded.mapError (Stop.map change)) (plain.mapError change) := by
  obtain ⟨rfl, result, reported⟩ := mirrored
  cases plain with
  | error fault => exact mirrors_refuse (change fault) (reports fault (reported fault rfl))
  | ok value => exact mirrors_value value (result value rfl)

lemma mirrors_weaken {weaker : α → Prop} (mirrored : Mirrors holds guarded plain)
    (implies : ∀ value, holds value → weaker value) : Mirrors weaker guarded plain :=
  ⟨mirrored.same, fun value given => implies value (mirrored.result value given), mirrored.fault⟩

lemma mirrors_lookup {fault : ε} {plain : Except ε β} (reported : Reports.reported fault)
    (missing : items[position]? = none → plain = .error fault)
    (follows : ∀ item, items[position]? = some item → Mirrors after (next item) plain) :
    Mirrors after (lookup items position fault >>= next) plain := by
  cases held : items[position]? with
  | none =>
    rw [lookup_missing fault held, missing held]
    exact mirrors_refuse fault reported
  | some item =>
    rw [lookup_held fault held]
    exact follows item held

lemma mirrors_fold (items : List β) (guarded : α → β → Guarded ε α) (plain : α → β → Except ε α)
    (round : ∀ value item, holds value → Mirrors holds (guarded value item) (plain value item)) (value : α) (held : holds value) :
    Mirrors holds (items.foldlM guarded value) (items.foldlM plain value) := by
  induction items generalizing value with
  | nil => exact mirrors_value value held
  | cons item rest ih =>
    rw [foldlM_cons, foldlM_cons]
    exact mirrors_bind (round value item held) ih

lemma mirrors_each {guarded : α → Guarded ε β} {plain : α → Except ε β}
    (each : ∀ item ∈ items, Tracks (guarded item) (plain item)) :
    Tracks (items.mapM guarded) (items.mapM plain) := by
  induction items with
  | nil => exact tracks_value []
  | cons item rest ih =>
    rw [mapM_cons, mapM_cons]
    refine mirrors_bind (each item mem_cons_self) fun first _ => ?_
    exact tracks_map (ih fun later member => each later (.tail item member))

end Mirrors

end Guarded

end WasmLua.Compile
