import Mathlib
import WasmLua.Binary.Code

namespace WasmLua.Wasm

open Binary

lemma joined_value (low high : UInt32) : (joinWords low high).toNat = low.toNat + 2 ^ 32 * high.toNat := by
  have lower := low.toNat_lt
  have upper := high.toNat_lt
  rw [joinWords, UInt64.or_comm, UInt64.toNat_or, UInt64.toNat_shiftLeft, UInt32.toNat_toUInt64, UInt32.toNat_toUInt64]
  have shifted : high.toNat <<< ((32 : UInt64).toNat % 64) % 2 ^ 64 = high.toNat <<< 32 := by
    rw [show (32 : UInt64).toNat % 64 = 32 from rfl, Nat.shiftLeft_eq]
    omega
  rw [shifted, ← Nat.shiftLeft_add_eq_or_of_lt lower, Nat.shiftLeft_eq]
  omega

lemma joined_low (low high : UInt32) : (joinWords low high).toUInt32 = low := by
  have lower := low.toNat_lt
  rw [← UInt32.toNat_inj, UInt64.toNat_toUInt32, joined_value]
  omega

lemma joined_high (low high : UInt32) : (joinWords low high >>> 32).toUInt32 = high := by
  have lower := low.toNat_lt
  have upper := high.toNat_lt
  rw [← UInt32.toNat_inj, UInt64.toNat_toUInt32, UInt64.toNat_shiftRight, joined_value, Nat.shiftRight_eq_div_pow]
  change _ / 2 ^ 32 % 2 ^ 32 = _
  omega

lemma decode_index (type : UInt32) : BlockType.decode type.toUInt64 = .index type := by
  -- An index leaves the highest bit clear, which every other type of a block sets.
  have other (word : UInt64) (high : 2 ^ 32 ≤ word.toNat) : (type.toUInt64 &&& 0x80000000ffffffff == word) = false := by
    rw [beq_eq_false_iff_ne]
    rintro rfl
    rw [UInt64.toNat_and, UInt32.toNat_toUInt64] at high
    exact absurd (high.trans Nat.and_le_left) (Nat.not_le.mpr type.toNat_lt)
  have absent (types : List ValueType) (high : ∀ type ∈ types, 2 ^ 32 ≤ (BlockType.value type).encode.toNat) :
      types.find? (fun value => type.toUInt64 &&& 0x80000000ffffffff == (BlockType.value value).encode) = none :=
    List.find?_eq_none.mpr fun value member => by simp [other _ (high value member)]
  rw [BlockType.decode, other _ (by decide)]
  simp only [absent [.i32, .i64, .f32, .f64, .funcref, .externref] (by decide)]
  simp

lemma byte_kept (byte : UInt8) : (ValueType.ofByte byte).toByte = byte := by
  unfold ValueType.ofByte
  split <;> rfl

lemma word_kept (value : Int32) : value.toInt64.toUInt64.toUInt32.toInt32 = value := by
  rw [← Int32.toBitVec_inj]
  change (value.toBitVec.signExtend 64).setWidth 32 = value.toBitVec
  grind

lemma target_word (target : UInt32) : (Int64.ofNat target.toNat).toUInt64 = target.toUInt64 := by
  rw [← UInt64.toNat_inj]
  change (BitVec.ofInt 64 target.toNat).toNat = _
  simp

lemma table_of (first : Int64) (more : List Int64) : Instruction.brTableOf first more
    = .brTable (first :: more).dropLast ((first :: more).getLast (by simp)) := by
  cases more with
  | nil => rfl
  | cons second more => simp [Instruction.brTableOf, List.getLast?_eq_getLast_of_ne_nil]

lemma index_behind (first : Immediate) (targets : List UInt32) (place : Nat) :
    indexAt (first :: targets.map .index) (place + 1) = targets.getD place 0 := by
  simp only [indexAt, List.getElem?_cons_succ, List.getElem?_map, List.getD_eq_getElem?_getD]
  cases targets[place]? <;> rfl

lemma pack_table (first : UInt32) (more : List UInt32) (short : more.length < 2 ^ 32) :
    pack .brTable (.index (.ofNat more.length) :: (first :: more).map .index)
      = .ok (.brTableOf (.ofNat first.toNat) (more.map (.ofNat ·.toNat))) := by
  have count : (UInt32.ofNat more.length).toNat = more.length := by
    rw [UInt32.toNat_ofNat', Nat.mod_eq_of_lt short]
  change Except.ok (Instruction.mk _ (indexAt _ ((UInt32.ofNat more.length).toNat + 1)).toUInt64
    ((List.range (UInt32.ofNat more.length).toNat).map fun place => .ofNat (indexAt _ (1 + place)).toNat)) = _
  rw [count, index_behind, table_of]
  change _ = Except.ok (Instruction.mk _ (((first :: more).map fun target => Int64.ofNat target.toNat).getLast _).toUInt64
    ((first :: more).map fun target => Int64.ofNat target.toNat).dropLast)
  rw [List.getLast_map, target_word, ← List.map_dropLast]
  simp only [Nat.add_comm 1, index_behind]
  congr 2
  · simp [List.getLast_eq_getElem]
  · refine List.ext_getElem (by simp) fun place _ inside => ?_
    rw [List.length_map, List.length_dropLast, List.length_cons, Nat.add_sub_cancel] at inside
    simp only [List.getElem_map, List.getElem_range, List.getElem_dropLast,
      List.getD_eq_getElem (first :: more) 0 (Nat.lt_succ_of_lt inside)]

lemma table_found {op : Op} (member : op ∈ [Op.tableGrow, .tableSize, .tableFill]) (table : UInt32) :
    (Instruction.tableOp op table).op? = some op ∧ (Instruction.tableOp op table).table = table := by
  have self : (Instruction.tableOp op table).op? = some op := by
    rw [Instruction.op?, Instruction.index, Instruction.tableOp, joined_low]
    fin_cases member <;> rfl
  refine ⟨self, ?_⟩
  rw [Instruction.table, self]
  fin_cases member <;> exact joined_high _ _

lemma simple_word {op : Op} (short : op.codes.1 ≠ Op.prefixedCode) : Instruction.simple op = .withImmediate op 0 := by
  have clear : op.codes.2 = 0 := by
    rw [Op.codes] at short ⊢
    split at short
    · rfl
    · contradiction
  rw [Instruction.simple, Instruction.tableOp, clear]
  rfl

namespace Instruction

/-- What an instruction was made of, as the accessors find it in its word. -/
structure Recovered : Prop where
  accesses : ∀ op offset align, (memory op offset align).offset = offset ∧ (memory op offset align).align = align
  calls : ∀ type table, (callIndirect type table).index = type ∧ (callIndirect type table).table = table
  tables : ∀ op ∈ [Op.tableGrow, .tableSize, .tableFill], ∀ table,
    (tableOp op table).op? = some op ∧ (tableOp op table).index = op.codes.2 ∧ (tableOp op table).table = table
  indices : ∀ op index, (indexed op index).index = index
  tableIndices : ∀ op ∈ [Op.tableGet, .tableSet], ∀ index, (indexed op index).table = index
  branches : ∀ op label, (branch op label).label = label
  branchTables : ∀ first more, (brTableOf first more).labels ++ [(brTableOf first more).default] = first :: more
  types : ∀ op byte, (typed op (.ofByte byte)).valueType = .ofByte byte
  words : ∀ value, (i32Const value).i32 = value
  longs : ∀ value, (i64Const value).i64 = value
  floats : ∀ bits, (f32Const bits).index = bits ∧ (f32Const bits).f32 = .ofBits32 bits
  doubles : ∀ bits, (f64Const bits).immediate = bits ∧ (f64Const bits).f64 = .ofBits64 bits
  emptyBlocks : ∀ op scope, (block op .empty).blockType? scope = some ⟨[], []⟩
  valueBlocks : ∀ op scope, ∀ type ∈ [ValueType.i32, .i64, .f32, .f64, .funcref, .externref],
    (block op (.value type)).blockType? scope = some ⟨[], [type]⟩
  indexBlocks : ∀ op scope index, (block op (.index index)).blockType? scope = scope.type? index

lemma recovered : Recovered where
  accesses _ _ _ := ⟨joined_low _ _, joined_high _ _⟩
  calls _ _ := ⟨joined_low _ _, joined_high _ _⟩
  tables op member table := by
    obtain ⟨self, found⟩ := table_found member table
    exact ⟨self, joined_low _ _, found⟩
  indices _ _ := UInt32.toUInt32_toUInt64 _
  tableIndices op member index := by
    fin_cases member <;> exact UInt32.toUInt32_toUInt64 _
  branches _ _ := Int64.toInt64_toUInt64 _
  branchTables first more := by
    rw [table_of]
    exact List.dropLast_append_getLast _
  types op byte := by
    rw [typed, byte_kept]
    exact congrArg _ (UInt8.toUInt8_toUInt64 byte)
  words := word_kept
  longs := Int64.toInt64_toUInt64
  floats bits :=
    have kept := UInt32.toUInt32_toUInt64 bits
    ⟨kept, congrArg Number.ofBits32 kept⟩
  doubles _ := ⟨rfl, rfl⟩
  emptyBlocks op scope := by
    simp only [blockType?, block, withImmediate]
    rfl
  valueBlocks op scope type member := by
    simp only [blockType?, block, withImmediate]
    fin_cases member <;> rfl
  indexBlocks op scope index := by
    simp only [blockType?, block, withImmediate, BlockType.encode, decode_index]

/-- The operations that nothing stands behind in the binary format. -/
def bare : Op → Bool
  | .unreachable | .nop | .elseArm | .endBlock | .ret | .drop | .select | .intTest _ | .intCompare _ _ | .floatCompare _ _
  | .intUnary _ _ | .intBinary _ _ | .floatUnary _ _ | .floatBinary _ _ | .convert _ | .refIsNull => true
  | _ => false

/-- What the loader makes of the immediates of the binary format. -/
structure Packed : Prop where
  emptyBlocks : ∀ op ∈ [Op.block, .loop, .ifElse], pack op [.blockType 0x40] = .ok (block op .empty)
  valueBlocks : ∀ op ∈ [Op.block, .loop, .ifElse], ∀ type : ValueType, type.toByte ≠ 0x40 →
    pack op [.blockType type.toByte] = .ok (block op (.value type))
  branches : ∀ op ∈ [Op.br, .brIf], ∀ target, pack op [.index target] = .ok (branch op (.ofNat target.toNat))
  branchTables : ∀ first more, more.length < 2 ^ 32 →
    pack .brTable (.index (.ofNat more.length) :: (first :: more).map .index)
      = .ok (brTableOf (.ofNat first.toNat) (more.map (.ofNat ·.toNat)))
  indices : ∀ op ∈ [Op.call, .localGet, .localSet, .localTee, .globalGet, .globalSet], ∀ index,
    pack op [.index index] = .ok (indexed op index)
  calls : ∀ type, pack .callIndirect [.index type, .reserved] = .ok (callIndirect type 0)
  loads : ∀ access offset align, pack (.load access) [.index align, .index offset] = .ok (memory (.load access) offset align)
  stores : ∀ access offset align, pack (.store access) [.index align, .index offset] = .ok (memory (.store access) offset align)
  words : ∀ value, pack (.const (.int .i32)) [.i32 value] = .ok (i32Const value)
  longs : ∀ value, pack (.const (.int .i64)) [.i64 value] = .ok (i64Const value)
  floats : ∀ bits, pack (.const (.float .f32)) [.f32 bits] = .ok (f32Const bits)
  doubles : ∀ bits, pack (.const (.float .f64)) [.f64 bits] = .ok (f64Const bits)
  sizes : ∀ op ∈ [Op.memorySize, .memoryGrow], pack op [.reserved] = .ok (simple op)
  others : ∀ op, bare op = true → op.codes.1 ≠ Op.prefixedCode → immediates op = pure [] ∧ pack op [] = .ok (simple op)

lemma packed : Packed where
  emptyBlocks op member := by
    fin_cases member <;> rfl
  valueBlocks op member type other := by
    have word : blockWord [.blockType type.toByte] = (BlockType.value type).encode := if_neg (by simpa using other)
    fin_cases member <;> exact congrArg (fun word => Except.ok (withImmediate _ word)) word
  branches op member target := by
    fin_cases member <;> exact congrArg (fun word => Except.ok (withImmediate _ word)) (target_word target).symm
  branchTables := pack_table
  indices op member index := by
    fin_cases member <;> rfl
  calls type := by
    have low : joinWords type 0 = type.toUInt64 := by simp [joinWords]
    rw [callIndirect, low]
    rfl
  loads _ _ _ := rfl
  stores _ _ _ := rfl
  words _ := rfl
  longs _ := rfl
  floats _ := rfl
  doubles _ := rfl
  sizes op member := by
    fin_cases member <;> rfl
  others op nothing short := by
    rw [simple_word short]
    cases op <;> first | exact ⟨rfl, rfl⟩ | cases nothing

/-- What an instruction is made of can be read back from its word, and the loader packs what it reads into the same
word. -/
theorem immediates_kept : Recovered ∧ Packed := ⟨recovered, packed⟩

/-- A branch table with three targets, a block of one value and an instruction without immediates. -/
theorem branch_table_kept : (tableOp .tableGrow 7).table = 7 ∧ (indexed .tableSet 3).table = 3 ∧
    (∀ scope, (block .loop (.value .f64)).blockType? scope = some ⟨[], [.f64]⟩) ∧
    pack .ifElse [.blockType 0x7f] = .ok (block .ifElse (.value .i32)) ∧
    pack .brTable [.index 2, .index 5, .index 0, .index 4294967295] = .ok (brTableOf 5 [0, 4294967295]) ∧
    pack .brIf [.index 1] = .ok (branch .brIf 1) ∧ pack .localTee [.index 9] = .ok (indexed .localTee 9) ∧
    pack .memoryGrow [.reserved] = .ok (simple .memoryGrow) ∧ pack .ret [] = .ok (simple .ret) := by
  obtain ⟨found, made⟩ := immediates_kept
  exact ⟨(found.tables .tableGrow (by decide) 7).2.2, found.tableIndices .tableSet (by decide) 3,
    fun scope => found.valueBlocks .loop scope .f64 (by decide), made.valueBlocks .ifElse (by decide) .i32 (by decide),
    made.branchTables 5 [0, 4294967295] (by decide), made.branches .brIf (by decide) 1,
    made.indices .localTee (by decide) 9, made.sizes .memoryGrow (by decide), (made.others .ret rfl (by decide)).2⟩

end Instruction

end WasmLua.Wasm
