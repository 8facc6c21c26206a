import WasmLua.Number.Bits
import WasmLua.Number.Decimal
import WasmLua.Wasm.Op
import WasmLua.Wasm.Scope

namespace WasmLua.Wasm

structure Instruction where
  code : UInt8
  immediate : UInt64
  labels : List Int64
deriving DecidableEq, Repr, Inhabited

def joinWords (low high : UInt32) : UInt64 := low.toUInt64 ||| high.toUInt64 <<< 32

inductive BlockType where
  | empty
  | value (type : ValueType)
  | index (type : UInt32)
deriving DecidableEq, Repr

namespace BlockType

def special : UInt64 := 0x8000000000000000

def encode : BlockType → UInt64
  | .empty => 0x40 ||| special
  | .value type => type.toByte.toUInt64 ||| special
  | .index type => type.toUInt64

def decode (word : UInt64) : BlockType :=
  let plain := word &&& 0x80000000ffffffff
  if plain == encode .empty then .empty
  else
    match [ValueType.i32, .i64, .f32, .f64, .funcref, .externref].find? fun type =>
        plain == encode (.value type) with
    | some type => .value type
    | none => .index word.toUInt32

end BlockType

namespace Instruction

def default (instruction : Instruction) : Int64 := instruction.immediate.toInt64
def label (instruction : Instruction) : Int64 := instruction.immediate.toInt64
def index (instruction : Instruction) : UInt32 := instruction.immediate.toUInt32
def high (instruction : Instruction) : UInt32 := (instruction.immediate >>> 32).toUInt32
def offset (instruction : Instruction) : UInt32 := instruction.index
def align (instruction : Instruction) : UInt32 := instruction.high
def i32 (instruction : Instruction) : Int32 := instruction.index.toInt32
def i64 (instruction : Instruction) : Int64 := instruction.immediate.toInt64
def f32 (instruction : Instruction) : Number := .ofBits32 instruction.index
def f64 (instruction : Instruction) : Number := .ofBits64 instruction.immediate

def valueType (instruction : Instruction) : ValueType := .ofByte instruction.immediate.toUInt8

def op? (instruction : Instruction) : Option Op :=
  if instruction.code == Op.prefixedCode then Op.ofPrefixedCode? instruction.index
  else Op.ofCode? instruction.code

def table (instruction : Instruction) : UInt32 :=
  match instruction.op? with
  | some .tableGet => instruction.index
  | some .tableSet => instruction.index
  | _ => instruction.high

def tableOp (op : Op) (table : UInt32) : Instruction := ⟨op.codes.1, joinWords op.codes.2 table, []⟩

def simple (op : Op) : Instruction := tableOp op 0

def withImmediate (op : Op) (immediate : UInt64) : Instruction := ⟨op.codes.1, immediate, []⟩

def indexed (op : Op) (index : UInt32) : Instruction := withImmediate op index.toUInt64

def block (op : Op) (type : BlockType) : Instruction := withImmediate op type.encode

def branch (op : Op) (label : Int64) : Instruction := withImmediate op label.toUInt64

def brTable (labels : List Int64) (otherwise : Int64) : Instruction := ⟨Op.brTable.codes.1, otherwise.toUInt64, labels⟩

/-- The last target is the default. -/
def brTableOf (first : Int64) (more : List Int64) : Instruction :=
  match more.getLast? with
  | none => brTable [] first
  | some last => brTable (first :: more.dropLast) last

def callIndirect (type table : UInt32) : Instruction := withImmediate .callIndirect (joinWords type table)

def memory (op : Op) (offset align : UInt32) : Instruction := withImmediate op (joinWords offset align)

def typed (op : Op) (type : ValueType) : Instruction := withImmediate op type.toByte.toUInt64

def i32Const (value : Int32) : Instruction := withImmediate (.const (.int .i32)) value.toInt64.toUInt64

def i64Const (value : Int64) : Instruction := withImmediate (.const (.int .i64)) value.toUInt64

def f32Const (bits : UInt32) : Instruction := withImmediate (.const (.float .f32)) bits.toUInt64

def f64Const (bits : UInt64) : Instruction := withImmediate (.const (.float .f64)) bits

def endBlock : Instruction := simple .endBlock

def blockType? (instruction : Instruction) (scope : Scope) : Option Signature :=
  match BlockType.decode instruction.immediate with
  | .empty => some ⟨[], []⟩
  | .value type => some ⟨[], [type]⟩
  | .index type => scope.type? type

structure StackEffect where
  pops : Nat
  pushes : Nat
  known : Bool
deriving DecidableEq, Repr

def stackEffect (instruction : Instruction) (scope : Scope) : StackEffect :=
  match instruction.op? with
  | none => ⟨0, 0, false⟩
  | some op =>
    match op with
    | .unreachable | .nop | .block | .loop | .elseArm | .endBlock | .br | .ret => ⟨0, 0, true⟩
    | .ifElse | .brIf | .brTable | .drop | .localSet | .globalSet => ⟨1, 0, true⟩
    | .call =>
      match scope.function? instruction.index with
      | some signature => ⟨signature.params.length, signature.results.length, true⟩
      | none => ⟨0, 0, false⟩
    | .callIndirect =>
      match scope.type? instruction.index with
      | some signature => ⟨signature.params.length + 1, signature.results.length, true⟩
      | none => ⟨1, 0, false⟩
    | .select | .selectTyped => ⟨3, 1, true⟩
    | .localGet | .globalGet | .memorySize | .const _ | .refNull | .refFunc | .tableSize => ⟨0, 1, true⟩
    | .store _ | .tableSet => ⟨2, 0, true⟩
    | .load _ | .tableGet | .refIsNull | .localTee | .memoryGrow => ⟨1, 1, true⟩
    | .intTest _ | .intUnary _ _ | .floatUnary _ _ | .convert _ => ⟨1, 1, true⟩
    | .intCompare _ _ | .floatCompare _ _ | .intBinary _ _ | .floatBinary _ _ => ⟨2, 1, true⟩
    | .memoryCopy | .memoryFill | .tableFill => ⟨3, 0, true⟩
    | .tableGrow => ⟨2, 1, true⟩

def opText (instruction : Instruction) : String :=
  match instruction.op? with
  | some op => op.text
  | none => "invalid"

def blockText (instruction : Instruction) (name : String) : String :=
  let plain := [ValueType.i32, .i64, .f32, .f64].find? fun type =>
    instruction.immediate == (BlockType.value type).encode
  if instruction.immediate == BlockType.empty.encode then name
  else
    match plain with
    | some type => name ++ " (result " ++ type.text ++ ")"
    | none => name ++ s!" (type {instruction.index})"

def accessText (instruction : Instruction) (name : String) : String :=
  let align : UInt32 := if instruction.align < 32 then 1 <<< instruction.align else 0
  name ++ (if instruction.offset == 0 then "" else s!" offset={instruction.offset}")
    ++ (if instruction.align == 0 then "" else s!" align={align}")

def text (instruction : Instruction) : String :=
  let name := instruction.opText
  match instruction.op? with
  | none => name
  | some op =>
    match op with
    | .block | .loop | .ifElse => instruction.blockText name
    | .br | .brIf => s!"{name} {instruction.label}"
    | .brTable =>
      String.intercalate " " (name :: (instruction.labels ++ [instruction.default]).map toString)
    | .call | .localGet | .localSet | .localTee | .globalGet | .globalSet | .refFunc
    | .tableGet | .tableSet =>
      s!"{name} {instruction.index}"
    | .tableGrow | .tableSize | .tableFill => s!"{name} {instruction.high}"
    | .callIndirect =>
      if instruction.high == 0 then s!"{name} (type {instruction.index})"
      else s!"{name} {instruction.high} (type {instruction.index})"
    | .refNull => name ++ " " ++ instruction.valueType.text
    | .load _ | .store _ => instruction.accessText name
    | .const (.int .i32) => s!"{name} {instruction.i32}"
    | .const (.int .i64) => s!"{name} {instruction.i64}"
    | .const (.float .f32) => name ++ " " ++ instruction.f32.text .binary32
    | .const (.float .f64) => name ++ " " ++ instruction.f64.text .binary64
    | _ => name

end Instruction

end WasmLua.Wasm
