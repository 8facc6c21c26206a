import WasmLua.Proofs.Isolation.Enclosure

namespace WasmLua.Exec

variable {ω ι : Type}

structure Call (ι : Type) where
  side : ι
  name : Bytes
  args : List HostValue

abbrev Outcome := Except Failure (List HostValue)

def Outcome.rename (names : Renaming) (outcome : Outcome) : Outcome := List.map (HostValue.rename names) <$> outcome

section Serving

variable (loaded : Loaded) (exports : ι → Exports)

def answer (call : Call ι) (store : Store ω) : Outcome × Store ω :=
  match (exports call.side).call loaded call.name call.args store with
  | .ok results after => (.ok results, after)
  | .error failure after => (.error failure, after)

/-- The outcomes of calls, each with the instance that was called, and the store after them. -/
def serve : List (Call ι) → Store ω → List (ι × Outcome) × Store ω
  | [], store => ([], store)
  | call :: rest, store =>
    let (outcome, after) := answer loaded exports call store
    let (outcomes, final) := serve rest after
    ((call.side, outcome) :: outcomes, final)

end Serving

def heard [DecidableEq ι] (side : ι) (outcomes : List (ι × Outcome)) : List Outcome := (outcomes.filter (·.1 = side)).map Prod.snd

def callsOf [DecidableEq ι] (side : ι) (calls : List (Call ι)) : List (Call ι) := calls.filter (·.side = side)

variable {call : Call ι} {rest : List (Call ι)} {caller : ι} {outcome : Outcome}

section Sides

variable [DecidableEq ι] {side : ι}

lemma heard_mine (mine : caller = side) {rest : List (ι × Outcome)} :
    heard side ((caller, outcome) :: rest) = outcome :: heard side rest := by
  simp [heard, mine]

lemma heard_other (different : caller ≠ side) {rest : List (ι × Outcome)} :
    heard side ((caller, outcome) :: rest) = heard side rest := by
  simp [heard, different]

lemma calls_mine (mine : call.side = side) : callsOf side (call :: rest) = call :: callsOf side rest := by
  simp [callsOf, mine]

lemma calls_other (different : call.side ≠ side) : callsOf side (call :: rest) = callsOf side rest := by
  simp [callsOf, different]

end Sides

namespace Renaming

variable {names : Renaming} {own image later : Nat}

variable {id : Nat}

lemma below_fresh (fresh : ∀ count, names.name (own + count) = image + count) (old : id < own) : names.name id < image := by
  refine Nat.lt_of_not_le fun beyond => ?_
  have taken : names.name id = names.name (own + (names.name id - image)) := by
    rw [fresh]
    omega
  have same := names.injective _ _ taken
  omega

/-- The same names for the identities in use, and later ones for those to come. -/
def advance (names : Renaming) (fresh : ∀ count, names.name (own + count) = image + count)
    (le : image ≤ later) (positive : 0 < own) : Renaming where
  name id := if id < own then names.name id else later + (id - own)
  injective := fun first second same => by
    have low {id : Nat} (old : id < own) : names.name id < image := below_fresh fresh old
    split at same <;> split at same
    · exact names.injective _ _ same
    · have := low ‹first < own›
      omega
    · have := low ‹second < own›
      omega
    · omega
  zero := by
    rw [if_pos positive]
    exact names.zero

variable (fresh : ∀ count, names.name (own + count) = image + count) (le : image ≤ later) (positive : 0 < own)

lemma advance_old (old : id < own) : (advance names fresh le positive).name id = names.name id := if_pos old

lemma advance_new (count : Nat) : (advance names fresh le positive).name (own + count) = later + count := by
  have new : ¬ own + count < own := by omega
  calc
    (advance names fresh le positive).name (own + count) = later + (own + count - own) := if_neg new
    _ = later + count := by rw [Nat.add_sub_cancel_left]

end Renaming

variable {names other : Renaming}

lemma Value.rename_congr {territory : Territory} {limit : Nat}
    (same : ∀ id, id < limit → other.name id = names.name id) {value : Value}
    (inside : value.Inside territory limit) : value.rename other = value.rename names := by
  induction value with
  | pair id low high lower upper =>
    obtain ⟨below, left, right⟩ := inside
    rw [rename, rename, same id below, lower left, upper right]
  | _ => rfl

lemma HostValue.rename_congr {territory : Territory} {limit : Nat}
    (same : ∀ id, id < limit → other.name id = names.name id) {value : HostValue}
    (inside : value.Inside territory limit) : value.rename other = value.rename names := by
  cases value with
  | held value => exact congrArg HostValue.held (Value.rename_congr same inside)
  | _ => rfl

namespace Territory

open Mirror

variable {territory : Territory} {names other : Renaming} {limit : Nat}

section Renamed

variable (same : ∀ id, id < limit → other.name id = names.name id) include same

lemma lists_renamed (lists : (territory.mirror names).Lists limit values images) :
    (territory.mirror other).Lists limit values images := by
  refine ⟨lists.1, lists.2.trans (List.map_congr_left fun value member => ?_)⟩
  exact (Value.rename_congr same (lists.1 value member)).symm

lemma objects_renamed (objects : (territory.mirror names).Objects limit object image) :
    (territory.mirror other).Objects limit object image := by
  have shows {value image : Value} (shows : (territory.mirror names).Shows limit value image) :
      (territory.mirror other).Shows limit value image :=
    ⟨shows.1, shows.2.trans (Value.rename_congr same shows.1).symm⟩
  obtain ⟨slot, body⟩ := object
  obtain ⟨slot', body'⟩ := image
  refine ⟨shows objects.value, ?_⟩
  cases objects.body with
  | cell => exact .cell
  | memory content => exact .memory content
  | table tables =>
    refine .table ⟨⟨tables.1.size, tables.1.maximum, fun index => ?_⟩, tables.2⟩
    exact (shows ⟨tables.2 index, tables.1.elements index⟩).2
  | record never content => exact never.elim

lemma instances_renamed (instances : (territory.mirror names).Instances limit owner image) :
    (territory.mirror other).Instances limit owner image where
  functions := lists_renamed same instances.functions
  refs := lists_renamed same instances.refs
  memories := lists_renamed same instances.memories
  tables := lists_renamed same instances.tables
  globals := lists_renamed same instances.globals

end Renamed

variable {base own image after : Store ω}

lemma stores_elsewhere (related : territory.Stores names base own image) (spared : image.Spares elsewhere after)
    (apart : elsewhere.Apart territory) :
    territory.Stores (names.advance related.fresh spared.pairs related.positive) after own after where
  objects := fun address member => by
    rw [spared.objects address fun also => apart.objects address also member]
    exact rel_mono (fun _ _ => objects_renamed fun _ => Renaming.advance_old _ _ _) (related.objects address member)
  instances := fun id member => by
    rw [spared.instances id fun also => apart.instances id also member]
    exact rel_mono (fun _ _ => instances_renamed fun _ => Renaming.advance_old _ _ _) (related.instances id member)
  hosts := spared.hosts.trans related.hosts
  pure := related.pure
  positive := related.positive
  fresh := Renaming.advance_new related.fresh spared.pairs related.positive
  spared := spares_refl _ _

end Territory

/-- The store of a run in which only one instance is called, beside that of a run with all calls. Identities
below the floor were in use before the first call. -/
structure Beside (territory : ι → Territory) (side : ι) (floor : Nat) (names : Renaming)
    (alone mixed : Store ω) : Prop where
  shown : (territory side).Stores names mixed alone mixed
  closed : ∀ other, other ≠ side → mixed.Closed (territory other)
  used : floor ≤ alone.pairs
  taken : floor ≤ mixed.pairs
  kept : ∀ id, id < floor → names.name id = id

def Store.Fixes (before after : Store ω) : Prop :=
  ∀ id : Nat, (after.instances[id]?).map Instance.fixed = (before.instances[id]?).map Instance.fixed

section Calls

open Territory

variable {loaded : Loaded} {exports : ι → Exports} {territory : ι → Territory} {side : ι} {floor : Nat}
  {names : Renaming} {alone mixed : Store ω} {call : Call ι}

lemma answer_follows {territory : Territory} {base own image : Store ω} {least : Nat}
    (reach : ∀ target, (exports call.side).value call.name = .function target → target.Inside territory)
    (hosts : (territory.mirror names).HostLists least call.args call.args)
    (related : territory.Stores names base own image) (enough : least ≤ own.pairs) :
    Matched ((territory.mirror names).HostLists (answer loaded exports call own).2.pairs)
        (answer loaded exports call own).1 (answer loaded exports call image).1 ∧
      territory.Stores names base (answer loaded exports call own).2 (answer loaded exports call image).2 ∧
      own.pairs ≤ (answer loaded exports call own).2.pairs := by
  have ends := Stage.export_follows (embeds territory names base) loaded reach hosts own image related enough
  unfold answer
  generalize (exports call.side).call loaded call.name call.args own = left at ends
  generalize (exports call.side).call loaded call.name call.args image = right at ends
  cases ends with
  | ok more after hosts => exact ⟨.ok hosts, after, more⟩
  | error more failed =>
    rcases failed with after | ⟨_, -, after⟩ <;> exact ⟨.error _, after, more⟩

/-- Instances in territories that have nothing in common. The functions that they export stay there. -/
structure Separate (territory : ι → Territory) (exports : ι → Exports) : Prop where
  apart : ∀ side other, side ≠ other → (territory side).Apart (territory other)
  reach : ∀ side name target, (exports side).value name = .function target → target.Inside (territory side)

variable (separate : Separate territory exports) include separate

lemma own_call (beside : Beside territory side floor names alone mixed) (mine : call.side = side)
    (args : ∀ value ∈ call.args, value.Inside (territory call.side) floor) :
    Matched (((territory side).mirror names).HostLists (answer loaded exports call alone).2.pairs)
        (answer loaded exports call alone).1 (answer loaded exports call mixed).1 ∧
      Beside territory side floor names (answer loaded exports call alone).2
        (answer loaded exports call mixed).2 ∧ alone.pairs ≤ (answer loaded exports call alone).2.pairs ∧
      mixed.Fixes (answer loaded exports call mixed).2 := by
  subst mine
  have hosts : ((territory call.side).mirror names).HostLists floor call.args call.args := by
    have same := still_hosts args
    refine ⟨same.1, same.2.trans (List.map_congr_left fun value member => ?_)⟩
    exact HostValue.rename_congr (fun id below => (beside.kept id below).symm) (args value member)
  obtain ⟨matched, after, more⟩ := answer_follows (separate.reach call.side call.name) hosts beside.shown beside.used
  refine ⟨matched, ⟨{ after with spared := spares_refl _ _ }, fun other different => ?_, Nat.le_trans beside.used more,
    Nat.le_trans beside.taken after.spared.pairs, beside.kept⟩, more, after.spared.fixed⟩
  exact closed_spared (beside.closed other different) after.spared (separate.apart _ _ different.symm)

lemma other_call (beside : Beside territory side floor names alone mixed) (different : call.side ≠ side)
    (args : ∀ value ∈ call.args, value.Inside (territory call.side) floor) :
    ∃ later : Renaming, (∀ id, id < alone.pairs → later.name id = names.name id) ∧
      Beside territory side floor later alone (answer loaded exports call mixed).2 ∧
      mixed.Fixes (answer loaded exports call mixed).2 := by
  have closed := beside.closed call.side different
  obtain ⟨-, after, -⟩ := answer_follows (separate.reach call.side call.name) (still_hosts args)
    (held_stores closed.toHeld) beside.taken
  have spared := after.spared
  refine ⟨names.advance beside.shown.fresh spared.pairs beside.shown.positive,
    fun _ => Renaming.advance_old _ _ _, ⟨?_, fun other apart => ?_, beside.used, ?_, fun id below => ?_⟩,
    spared.fixed⟩
  · exact stores_elsewhere beside.shown spared (separate.apart _ _ different)
  · by_cases same : other = call.side
    · subst same
      exact held_closed closed spared (stores_held after)
    · exact closed_spared (beside.closed other apart) spared (separate.apart _ _ (Ne.symm same))
  · exact Nat.le_trans beside.taken spared.pairs
  · rw [Renaming.advance_old _ _ _ (Nat.lt_of_lt_of_le below beside.used)]
    exact beside.kept id below

variable [DecidableEq ι]

lemma serve_beside {calls : List (Call ι)} (beside : Beside territory side floor names alone mixed)
    (args : ∀ call ∈ calls, ∀ value ∈ call.args, value.Inside (territory call.side) floor) :
    ∃ later : Renaming, (∀ id, id < alone.pairs → later.name id = names.name id) ∧
      heard side (serve loaded exports calls mixed).1 =
        (heard side (serve loaded exports (callsOf side calls) alone).1).map (Outcome.rename later) ∧
      Beside territory side floor later (serve loaded exports (callsOf side calls) alone).2
        (serve loaded exports calls mixed).2 ∧ mixed.Fixes (serve loaded exports calls mixed).2 := by
  -- By induction on the calls. A call of the instance itself is made in both runs under the same names; a
  -- call of another one is made in one run only and moves the names of pairs to come.
  induction calls generalizing names alone mixed with
  | nil => exact ⟨names, fun _ _ => rfl, rfl, beside, fun _ => rfl⟩
  | cons call rest ih =>
    obtain ⟨here, others⟩ := List.forall_mem_cons.mp args
    by_cases mine : call.side = side
    · obtain ⟨matched, next, more, fixes⟩ := own_call separate beside mine here
      obtain ⟨later, kept, same, final, fixes'⟩ := ih next others
      have renamed : (answer loaded exports call mixed).1 = (answer loaded exports call alone).1.rename later := by
        generalize (answer loaded exports call alone).1 = outcome at matched
        generalize (answer loaded exports call mixed).1 = image at matched
        cases matched with
        | error failure => rfl
        | ok hosts =>
          obtain ⟨inside, rfl⟩ := hosts
          refine congrArg Except.ok (List.map_congr_left fun value member => ?_)
          exact (HostValue.rename_congr kept (HostValue.all_inside.mp (inside value member))).symm
      rw [calls_mine mine]
      refine ⟨later, fun id below => kept id (Nat.lt_of_lt_of_le below more), ?_, final, fun id => ?_⟩
      · simp only [serve, heard_mine mine, List.map_cons, renamed, same]
      · exact (fixes' id).trans (fixes id)
    · obtain ⟨moved, early, next, fixes⟩ := other_call separate beside mine here
      obtain ⟨later, kept, same, final, fixes'⟩ := ih next others
      rw [calls_other mine]
      refine ⟨later, fun id below => (kept id below).trans (early id below), ?_, final, fun id => ?_⟩
      · simp only [serve, heard_other mine, same]
      · exact (fixes' id).trans (fixes id)

end Calls

end WasmLua.Exec
