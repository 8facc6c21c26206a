import WasmLua.Compile.Unit
import WasmLua.Proofs.Link.Segments

namespace WasmLua.Exec

variable {ω : Type}

def Store.enrol (store : Store ω) (owner : Instance) : Store ω :=
  { store with instances := store.instances.push owner }

namespace Link

open Execution Store Segment Number Memory List

/-- The offsets of the segments that are not empty are finite numbers. -/
structure FiniteOffsets (program : Target.Program) (owner : Instance) (store : Store ω) : Prop where
  elements : ∀ element ∈ program.elements, element.functions ≠ [] → ∀ start after,
    offset program owner element.offset store = .ok start after → start.isFinite = true
  data : ∀ data ∈ program.data, data.bytes ≠ [] → ∀ start after,
    offset program owner data.offset store = .ok start after → start.isFinite = true

variable {constant : Target.Constant}

lemma evaluate_exports :
    (evaluate names { owner with exports := fields } constant : Execution ω Value) = evaluate names owner constant := by
  induction constant with
  | atom atom | global index => rfl
  | arith type op a b first second => simp only [evaluate, first, second]

lemma check_exports (program : Target.Program) (owner : Instance) (id : Nat) :
    (checkSegments program (exports program id owner) : Execution ω Unit) = checkSegments program owner := by
  simp only [checkSegments, offset, exports, evaluate_exports]
  rfl

variable {size : Number} {program : Target.Program} {owner : Instance} {segment : Segment}
  {store final before after checked current : Store ω} {imports : Imports} {id : Nat}

lemma finite_segment (finite : FiniteOffsets program owner checked)
    (member : segment ∈ ofProgram program) (occupied : segment.items owner ≠ []) {start : Number}
    (evaluated : offset program owner segment.start checked = .ok start after) : start.isFinite = true := by
  simp only [ofProgram, mem_append, mem_map] at member
  rcases member with ⟨init, inside, rfl⟩ | ⟨init, inside, rfl⟩
  · exact finite.elements init inside (by simpa [items] using occupied) start after evaluated
  · exact finite.data init inside (by simpa [items] using occupied) start after evaluated

lemma segment_checked (ran : segment.check program owner store = .ok () final) :
    ∃ start again body size, offset program owner segment.start store = .ok start again ∧
      segment.found? owner store = some (body, size) ∧
      size.lt (Arithmetic.unsigned start + .ofInt (segment.items owner).length) = false := by
  obtain ⟨start, again, evaluated, rest⟩ := bind_succeeded _ ran
  obtain ⟨pairs, rfl⟩ := leads_ok (offset_leads (unchanged_steady store) _) (unchanged_refl store) evaluated
  obtain ⟨_, _, here, checked⟩ := bind_succeeded _ rest
  rw [reach_eq] at here
  split at here
  · rename_i held
    cases here
    have passed := (except_succeeded checked).1
    split at passed
    · cases passed
    · rename_i enough
      exact ⟨start, _, _, _, evaluated, held, Bool.eq_false_iff.mpr enough⟩
  · cases here

lemma pieces_fit {α : Type} {limit : Nat} {items : List α} {start : Number}
    (measured : size.le (.ofInt sizeLimit) = true) (finite : items ≠ [] → start.isFinite = true)
    (fits : size.lt (Arithmetic.unsigned start + .ofInt items.length) = false) (position : Nat)
    (piece : List α) (member : (position, piece) ∈ Target.Program.chunks limit items) :
    Fits size (pieceOffset start position) piece.length := by
  intro item first last
  have part := chunks_part 0 items member
  rw [Nat.zero_add] at part
  have occupied : items ≠ [] := by
    rintro rfl
    rw [length_nil] at part
    omega
  exact piece_inside (finite occupied) measured fits part first last

lemma found_measured (measured : store.Measured)
    (found : segment.found? owner store = some (body, size)) : size.le (.ofInt sizeLimit) = true := by
  obtain ⟨address, slot, -, held, sized⟩ := found_object found
  have small := measured _ (Array.mem_of_getElem? held)
  cases segment <;> cases body <;> cases sized <;> exact small

lemma segment_written (measured : before.Measured) (passed : segment.check program owner before = .ok () after)
    (finite : segment.items owner ≠ [] → ∀ start again,
      offset program owner segment.start checked = .ok start again → start.isFinite = true)
    (sameChecked : checked.objects = before.objects) (sameCurrent : current.objects = before.objects)
    (within : Within current store) : ∃ written, segment.write program owner store = .ok () written ∧ Within current written := by
  obtain ⟨start, again, body, size, evaluated, found, fits⟩ := segment_checked passed
  obtain ⟨_, whenChecked, _⟩ := offset_runs checked evaluated (by rw [SameSlots, sameChecked])
  obtain ⟨_, whenWritten, _⟩ := offset_runs current evaluated (by rw [SameSlots, sameCurrent])
  have same : segment.found? owner current = segment.found? owner before := by
    unfold found? object?
    rw [sameCurrent]
  refine write_runs whenWritten (same.trans found) ?_ within
  exact pieces_fit (found_measured measured found) (fun occupied => finite occupied start _ whenChecked) fits

lemma check_ran {segments : List Segment} (kept : Unchanged store before)
    (passed : segments.forM (Segment.check program owner) before = .ok () final) (member : segment ∈ segments) :
    ∃ here after, Unchanged store here ∧ segment.check program owner here = .ok () after := by
  induction segments generalizing before with
  | nil => cases member
  | cons first rest ih =>
    obtain ⟨_, after, ran, later⟩ := bind_succeeded _ passed
    rcases mem_cons.mp member with rfl | behind
    · exact ⟨before, after, kept, ran⟩
    · have still := leads_ok (check_leads (unchanged_steady store) first) kept ran
      exact ih still later behind

lemma write_segments_runs (passed : checkSegments program owner store = .ok () checked)
    (measured : store.Measured) (finite : FiniteOffsets program owner checked) (objects : current.objects = checked.objects) :
    ∃ written, writeSegments program owner current = .ok () written ∧ Within current written := by
  have same := unchanged_objects (check_unchanged passed)
  rw [check_segments] at passed
  rw [write_segments]
  refine each_runs (Within current) _ _ (fun segment member store' inside => ?_) current
    (within_of_unchanged (unchanged_refl current))
  obtain ⟨here, after, unchanged, ran⟩ := check_ran (unchanged_refl store) passed member
  have objectsThen := unchanged_objects unchanged
  exact segment_written (by rwa [Measured, objectsThen]) ran
    (fun occupied _ _ evaluated => finite_segment finite member occupied evaluated)
    (by rw [same, objectsThen]) (by rw [objects, same, objectsThen]) inside

lemma prepare_checked (ran : prepare program imports id store = .ok owner checked) :
    ∃ before bare, checkSegments program bare before = .ok () checked ∧ owner = exports program id bare := by
  obtain ⟨_, _, _, memoriesOn⟩ := bind_succeeded _ ran
  obtain ⟨_, _, _, tablesOn⟩ := bind_succeeded _ memoriesOn
  obtain ⟨_, _, _, globalsOn⟩ := bind_succeeded _ tablesOn
  obtain ⟨bare, before, _, checksOn⟩ := bind_succeeded _ globalsOn
  obtain ⟨_, _, passed, ended⟩ := bind_succeeded _ checksOn
  cases ended
  exact ⟨before, bare, passed, rfl⟩

lemma prepared_writes (measured : store.Measured) (ran : prepare program imports id store = .ok owner checked)
    (finite : FiniteOffsets program owner checked) :
    ∃ written, writeSegments program owner (checked.enrol owner) = .ok () written ∧ Within (checked.enrol owner) written := by
  obtain ⟨before, bare, passed, rfl⟩ := prepare_checked ran
  have extended := leads_ok (prepare_extends program imports id store) (extends_refl store) ran
  have same := unchanged_objects (check_unchanged passed)
  have all := extends_measured extended measured
  rw [Measured, same] at all
  rw [← check_exports program bare id] at passed
  exact write_segments_runs passed all finite rfl

lemma instantiate_prepared (code : Code) (depth : Nat)
    (ran : prepare program imports store.instances.size store = .ok owner checked) :
    instantiate program code depth imports store = (writeSegments program owner >>= fun _ =>
        start program code depth store.instances.size owner >>= fun _ => pure owner) (checked.enrol owner) :=
  bind_runs (prepare program imports _) _ store checked ran

/-- Instantiation fails before it has written a segment, with nothing but new objects in the store, or it writes every
segment and runs the start function. -/
theorem instantiation_all_or_nothing (program : Target.Program) (code : Code) (depth : Nat)
    (imports : Imports) (store : Store ω) (measured : store.Measured)
    (finite : ∀ owner checked, prepare program imports store.instances.size store = .ok owner checked →
      FiniteOffsets program owner checked) :
    match prepare program imports store.instances.size store with
    | .error raised after =>
      instantiate program code depth imports store = .error raised after ∧ Extends store after
    | .ok owner checked =>
      Extends store checked ∧
        ∃ written, writeSegments program owner (checked.enrol owner) = .ok () written ∧
          Within (checked.enrol owner) written ∧
          instantiate program code depth imports store =
            (do
              start program code depth store.instances.size owner
              return owner) written := by
  have extended := prepare_extends program imports store.instances.size store store (extends_refl store)
  cases ran : prepare program imports store.instances.size store with
  | error raised after =>
    rw [ran] at extended
    exact ⟨bind_fails (prepare program imports _) ran, extended⟩
  | ok owner checked =>
    rw [ran] at extended
    obtain ⟨written, wrote, within⟩ := prepared_writes measured ran (finite owner checked ran)
    refine ⟨extended, written, wrote, within, ?_⟩
    rw [instantiate_prepared code depth ran]
    exact bind_runs _ _ _ _ wrote

section SegmentPair

def segmentPair : Wasm.Module := { Wasm.Module.empty with
  memories := [⟨some ⟨[0x65], [0x6d]⟩, ⟨1, none⟩⟩]
  globals := [⟨some ⟨[0x65], [0x67]⟩, ⟨.i32, false⟩, []⟩]
  data := [⟨0, [.i32Const 0, .endBlock], [0x41], false⟩, ⟨0, [.indexed .globalGet 0, .endBlock], [0x42], false⟩] }

def segmentPairUnit : Target.Program where
  namePrefix := "w2l"
  functionNames := []
  cells := [true]
  name := []
  functionImports := []
  memories := [.imported ⟨[0x65], [0x6d]⟩ ⟨1, none⟩]
  tables := []
  refs := []
  globals := [.imported ⟨[0x65], [0x67]⟩]
  elements := []
  data := [⟨0, .atom (.i32 0), [0x41]⟩, ⟨0, .global 0, [0x42]⟩]
  functions := []
  exports := []
  start := none
  importList := [⟨[0x65], [0x6d], .memory, [], false⟩, ⟨[0x65], [0x67], .global, [0x69], false⟩]
  exportList := []

def pairImports : Imports := [([0x65], [([0x6d], .object 0), ([0x67], .object 1)])]

def pairStore (value : Number) : Store Unit := { Store.empty () with
  objects := #[⟨.null, .memory ⟨∅, .ofInt 1, .ofInt 65536, .ofInt 1⟩⟩, ⟨.number value, .cell⟩] }

def pairOwner : Instance := ⟨#[], #[], #[.object 0], #[], #[.object 1], []⟩

lemma pair_target (store : Store Unit) {memory : Memory} (found : store.memory? (.object 0) = some memory) :
    memoryOf pairOwner 0 store = .ok (.object 0, memory.size) store := by
  have place : pairOwner.memories.getD (0 : UInt32).toNat .null = .object 0 := rfl
  rw [memory_of_eq, place, found]

lemma pair_passes (value : Number) (data : Target.DataInit) {start : Number} (first : data.memory = 0)
    (single : data.bytes.length = 1)
    (evaluated : offset segmentPairUnit pairOwner data.offset (pairStore value) = .ok start (pairStore value))
    (small : (ofInt 65536).lt (Arithmetic.unsigned start + .ofInt 1) = false) :
    (Segment.data data).check segmentPairUnit pairOwner (pairStore value) = .ok () (pairStore value) := by
  have target : (Segment.data data).reach pairOwner (pairStore value)
      = .ok (.memory ⟨∅, .ofInt 1, .ofInt 65536, .ofInt 1⟩, .ofInt 65536) (pairStore value) := by
    rw [reach_eq, found?, Segment.target, first]
    rfl
  refine (bind_runs _ _ _ _ evaluated).trans ?_
  refine (bind_runs _ _ _ _ target).trans ?_
  exact except_runs _ (by rw [items, length_map, single, Nat.cast_one, small]; rfl)

lemma pair_prepared (value : Number) (small : (ofInt 65536).lt (Arithmetic.unsigned value + .ofInt 1) = false) :
    prepare segmentPairUnit pairImports 0 (pairStore value) = .ok pairOwner (pairStore value) := by
  have low : (ofInt 65536).lt (Arithmetic.unsigned (.ofInt 0) + .ofInt 1) = false := by
    rw [unsigned_int, add_int _ (by decide), lt_int]
    rfl
  have fixed := pair_passes value ⟨0, .atom (.i32 0), [0x41]⟩ rfl rfl rfl low
  have imported := pair_passes value ⟨0, .global 0, [0x42]⟩ rfl rfl rfl small
  have checks : checkSegments segmentPairUnit pairOwner (pairStore value) = .ok () (pairStore value) := by
    rw [check_segments]
    exact (bind_runs _ _ _ _ fixed).trans (bind_runs _ _ _ _ imported)
  exact bind_runs (checkSegments segmentPairUnit pairOwner) (fun _ => pure (exports segmentPairUnit 0 pairOwner)) _ _ checks

lemma pair_measured : (pairStore value).Measured := by
  intro object member
  have known : object = ⟨.null, .memory ⟨∅, .ofInt 1, .ofInt 65536, .ofInt 1⟩⟩ ∨
      object = ⟨.number value, .cell⟩ := by simpa [pairStore] using member
  rcases known with rfl | rfl
  · change (ofInt 65536).le (.ofInt sizeLimit) = true
    rw [le_int]
    rfl
  · trivial

lemma pair_finite (value : Number) (finite : value.isFinite = true) :
    FiniteOffsets segmentPairUnit pairOwner (pairStore value) where
  elements := fun _ member => by cases member
  data := by
    intro data member _ start after evaluated
    have known : data = ⟨0, .atom (.i32 0), [0x41]⟩ ∨ data = ⟨0, .global 0, [0x42]⟩ := by
      simpa [segmentPairUnit] using member
    rcases known with rfl | rfl
    · cases evaluated
      rfl
    · cases evaluated
      exact finite

theorem last_byte_all_or_nothing : (pairStore (.ofInt 65535)).Measured ∧
      FiniteOffsets segmentPairUnit pairOwner (pairStore (.ofInt 65535)) ∧
      prepare segmentPairUnit pairImports 0 (pairStore (.ofInt 65535)) = .ok pairOwner (pairStore (.ofInt 65535)) ∧
      ∃ written, Within ((pairStore (.ofInt 65535)).enrol pairOwner) written ∧
        instantiate segmentPairUnit (Code.ofProgram segmentPairUnit) 200 pairImports
          (pairStore (.ofInt 65535)) = .ok pairOwner written := by
  have small : (ofInt 65536).lt (Arithmetic.unsigned (.ofInt 65535) + .ofInt 1) = false := by
    rw [unsigned_int, add_int _ (by decide), lt_int]
    rfl
  have prepared := pair_prepared (.ofInt 65535) small
  have finite := pair_finite (.ofInt 65535) rfl
  have result := instantiation_all_or_nothing segmentPairUnit (Code.ofProgram segmentPairUnit) 200
    pairImports (pairStore (.ofInt 65535)) pair_measured (fun owner checked ran => by
      cases prepared.symm.trans ran
      exact finite)
  have size : (pairStore (.ofInt 65535)).instances.size = 0 := rfl
  rw [size, prepared] at result
  obtain ⟨_, written, _, within, ran⟩ := result
  exact ⟨pair_measured, finite, prepared, written, within, ran⟩

lemma first_byte : init (.ofInt 0) [0x41] = .ok (setByte (.ofInt 0) (.ofInt 0x41)) := by
  have base : Arithmetic.unsigned (.ofInt 0) - .ofInt 1 = ofInt (-1) := by
    rw [unsigned_int, sub_int (by decide)]
    rfl
  have key : ofInt (-1) + .ofInt 1 = .ofInt 0 := add_int _ (by decide)
  simp only [init, base, isEmpty_cons, Bool.false_eq_true, if_false, writing]
  rw [nan_int, if_neg Bool.false_ne_true]
  refine congrArg Except.ok (funext fun memory => ?_)
  rw [writeFrom, writeFrom, Nat.cast_one, key]
  rfl

variable {data : Target.DataInit}

lemma single_piece {byte : UInt8} (single : data.bytes = [byte]) :
    (writeData segmentPairUnit pairOwner data : Execution Unit Unit) = (do
      let start ← offset segmentPairUnit pairOwner data.offset
      let (value, _) ← memoryOf pairOwner data.memory
      let change ← Execution.ofExcept (init (pieceOffset start 0) [byte])
      modify fun store => store.modifyMemory value change) := by
  have pieces : Target.Program.chunks Target.Program.dataChunk data.bytes = [(0, [byte])] := by
    rw [single]
    rfl
  unfold writeData
  rw [pieces, forM_eq_forM, forM_cons, forM_nil]
  simp

lemma single_byte (byte : UInt8) (start : Number) {store : Store Unit} {memory : Memory}
    (first : data.memory = 0) (single : data.bytes = [byte])
    (evaluated : offset segmentPairUnit pairOwner data.offset store = .ok start store)
    (found : store.memory? (.object 0) = some memory) : writeData segmentPairUnit pairOwner data store =
      (Execution.ofExcept (init start [byte]) >>= fun change =>
        modify fun store => store.modifyMemory (.object 0) change) store := by
  have target := pair_target store found
  rw [← first] at target
  rw [single_piece single]
  exact (bind_runs _ _ _ _ evaluated).trans (bind_runs _ _ _ _ target)

def pairWritten (value : Number) : Store Unit :=
  ((pairStore value).enrol pairOwner).modifyMemory (.object 0) (setByte (.ofInt 0) (.ofInt 0x41))

/-- An offset that is NaN fails only when its segment is written, and the one before it stays. -/
theorem nan_offset_keeps_first_segment : Compile.compile segmentPair none = .ok segmentPairUnit ∧ ∃ raised after,
        instantiate segmentPairUnit (Code.ofProgram segmentPairUnit) 200 pairImports (pairStore .nan) = .error raised after ∧
        ((pairStore .nan).memory? (.object 0)).map (·.byte (.ofInt 0)) = some (.ofInt 0) ∧
        (after.memory? (.object 0)).map (·.byte (.ofInt 0)) = some (.ofInt 0x41) := by
  refine ⟨rfl, Fault.place.raised, pairWritten .nan, ?_, ?_, ?_⟩
  · have prepared := pair_prepared .nan rfl
    have wrote : writeData segmentPairUnit pairOwner ⟨0, .atom (.i32 0), [0x41]⟩
        ((pairStore .nan).enrol pairOwner) = .ok () (pairWritten .nan) := by
      rw [single_byte 0x41 (.ofInt 0) rfl rfl rfl rfl, first_byte]
      rfl
    have failed : writeData segmentPairUnit pairOwner ⟨0, .global 0, [0x42]⟩ (pairWritten .nan)
        = .error Fault.place.raised (pairWritten .nan) := by
      rw [single_byte 0x42 .nan rfl rfl rfl rfl]
      rfl
    have segments : writeSegments segmentPairUnit pairOwner ((pairStore .nan).enrol pairOwner)
        = .error Fault.place.raised (pairWritten .nan) :=
      (bind_runs _ _ _ _ wrote).trans (bind_fails _ failed)
    rw [instantiate_prepared _ _ prepared]
    exact bind_fails _ segments
  · change some (byte _ _) = _
    rw [byte]
    simp
  · change some (byte (setByte _ _ _) _) = _
    simp [byte, setByte]

end SegmentPair

end Link

end WasmLua.Exec
