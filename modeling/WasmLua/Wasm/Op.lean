import WasmLua.Wasm.Type

namespace WasmLua.Wasm

inductive IntType where
  | i32
  | i64
deriving DecidableEq, Repr

inductive FloatType where
  | f32
  | f64
deriving DecidableEq, Repr

inductive NumType where
  | int (type : IntType)
  | float (type : FloatType)
deriving DecidableEq, Repr

inductive Sign where
  | signed
  | unsigned
deriving DecidableEq, Repr

inductive IntCompare where
  | eq
  | ne
  | lt (sign : Sign)
  | gt (sign : Sign)
  | le (sign : Sign)
  | ge (sign : Sign)
deriving DecidableEq, Repr

inductive FloatCompare where
  | eq
  | ne
  | lt
  | gt
  | le
  | ge
deriving DecidableEq, Repr

inductive IntUnary where
  | clz
  | ctz
  | popcnt
deriving DecidableEq, Repr

inductive IntBinary where
  | add
  | sub
  | mul
  | div (sign : Sign)
  | rem (sign : Sign)
  | and
  | or
  | xor
  | shl
  | shr (sign : Sign)
  | rotl
  | rotr
deriving DecidableEq, Repr

inductive FloatUnary where
  | abs
  | neg
  | ceil
  | floor
  | trunc
  | nearest
  | sqrt
deriving DecidableEq, Repr

inductive FloatBinary where
  | add
  | sub
  | mul
  | div
  | min
  | max
  | copysign
deriving DecidableEq, Repr

inductive Conversion where
  | wrap
  | trunc (target : IntType) (source : FloatType) (sign : Sign)
  | truncSat (target : IntType) (source : FloatType) (sign : Sign)
  | extend (sign : Sign)
  | convert (target : FloatType) (source : IntType) (sign : Sign)
  | demote
  | promote
  | toBits (target : IntType)
  | ofBits (source : IntType)
  | extend8 (type : IntType)
  | extend16 (type : IntType)
  | extend32
deriving DecidableEq, Repr

inductive Width where
  | w8
  | w16
  | w32
deriving DecidableEq, Repr

inductive Load where
  | full (type : NumType)
  | narrow (type : IntType) (width : Width) (sign : Sign)
deriving DecidableEq, Repr

inductive Store where
  | full (type : NumType)
  | narrow (type : IntType) (width : Width)
deriving DecidableEq, Repr

inductive Op where
  | unreachable
  | nop
  | block
  | loop
  | ifElse
  | elseArm
  | endBlock
  | br
  | brIf
  | brTable
  | ret
  | call
  | callIndirect
  | drop
  | select
  | selectTyped
  | localGet
  | localSet
  | localTee
  | globalGet
  | globalSet
  | tableGet
  | tableSet
  | load (access : Load)
  | store (access : Store)
  | memorySize
  | memoryGrow
  | const (type : NumType)
  | intTest (type : IntType)
  | intCompare (type : IntType) (op : IntCompare)
  | floatCompare (type : FloatType) (op : FloatCompare)
  | intUnary (type : IntType) (op : IntUnary)
  | intBinary (type : IntType) (op : IntBinary)
  | floatUnary (type : FloatType) (op : FloatUnary)
  | floatBinary (type : FloatType) (op : FloatBinary)
  | convert (op : Conversion)
  | refNull
  | refIsNull
  | refFunc
  | memoryCopy
  | memoryFill
  | tableGrow
  | tableSize
  | tableFill
deriving DecidableEq, Repr

def IntType.valueType : IntType → ValueType
  | .i32 => .i32
  | .i64 => .i64

def FloatType.valueType : FloatType → ValueType
  | .f32 => .f32
  | .f64 => .f64

def NumType.valueType : NumType → ValueType
  | .int type => type.valueType
  | .float type => type.valueType

def IntType.text (type : IntType) : String := type.valueType.text
def FloatType.text (type : FloatType) : String := type.valueType.text
def NumType.text (type : NumType) : String := type.valueType.text

def IntType.float : IntType → FloatType
  | .i32 => .f32
  | .i64 => .f64

def Sign.text : Sign → String
  | .signed => "s"
  | .unsigned => "u"

namespace IntCompare

def all : List IntCompare :=
  [.eq, .ne, .lt .signed, .lt .unsigned, .gt .signed, .gt .unsigned, .le .signed, .le .unsigned, .ge .signed, .ge .unsigned]

def text : IntCompare → String
  | .eq => "eq"
  | .ne => "ne"
  | .lt sign => "lt_" ++ sign.text
  | .gt sign => "gt_" ++ sign.text
  | .le sign => "le_" ++ sign.text
  | .ge sign => "ge_" ++ sign.text

end IntCompare

namespace FloatCompare

def all : List FloatCompare := [.eq, .ne, .lt, .gt, .le, .ge]

def text : FloatCompare → String
  | .eq => "eq"
  | .ne => "ne"
  | .lt => "lt"
  | .gt => "gt"
  | .le => "le"
  | .ge => "ge"

end FloatCompare

namespace IntUnary

def all : List IntUnary := [.clz, .ctz, .popcnt]

def text : IntUnary → String
  | .clz => "clz"
  | .ctz => "ctz"
  | .popcnt => "popcnt"

end IntUnary

namespace IntBinary

def all : List IntBinary := [.add, .sub, .mul, .div .signed, .div .unsigned, .rem .signed, .rem .unsigned, .and, .or, .xor,
    .shl, .shr .signed, .shr .unsigned, .rotl, .rotr]

def text : IntBinary → String
  | .add => "add"
  | .sub => "sub"
  | .mul => "mul"
  | .div sign => "div_" ++ sign.text
  | .rem sign => "rem_" ++ sign.text
  | .and => "and"
  | .or => "or"
  | .xor => "xor"
  | .shl => "shl"
  | .shr sign => "shr_" ++ sign.text
  | .rotl => "rotl"
  | .rotr => "rotr"

end IntBinary

namespace FloatUnary

def all : List FloatUnary := [.abs, .neg, .ceil, .floor, .trunc, .nearest, .sqrt]

def text : FloatUnary → String
  | .abs => "abs"
  | .neg => "neg"
  | .ceil => "ceil"
  | .floor => "floor"
  | .trunc => "trunc"
  | .nearest => "nearest"
  | .sqrt => "sqrt"

end FloatUnary

namespace FloatBinary

def all : List FloatBinary := [.add, .sub, .mul, .div, .min, .max, .copysign]

def text : FloatBinary → String
  | .add => "add"
  | .sub => "sub"
  | .mul => "mul"
  | .div => "div"
  | .min => "min"
  | .max => "max"
  | .copysign => "copysign"

end FloatBinary

namespace Conversion

def truncations (target : IntType) (make : IntType → FloatType → Sign → Conversion) : List Conversion :=
  [make target .f32 .signed, make target .f32 .unsigned, make target .f64 .signed, make target .f64 .unsigned]

def conversions (target : FloatType) : List Conversion :=
  [.convert target .i32 .signed, .convert target .i32 .unsigned, .convert target .i64 .signed, .convert target .i64 .unsigned]

def all : List Conversion := .wrap :: truncations .i32 .trunc ++ [.extend .signed, .extend .unsigned]
    ++ truncations .i64 .trunc ++ conversions .f32 ++ .demote :: conversions .f64
    ++ [.promote, .toBits .i32, .toBits .i64, .ofBits .i32, .ofBits .i64,
      .extend8 .i32, .extend16 .i32, .extend8 .i64, .extend16 .i64, .extend32]

def saturating : List Conversion := truncations .i32 .truncSat ++ truncations .i64 .truncSat

def text : Conversion → String
  | .wrap => "i32.wrap_i64"
  | .trunc target source sign => target.text ++ ".trunc_" ++ source.text ++ "_" ++ sign.text
  | .truncSat target source sign => target.text ++ ".trunc_sat_" ++ source.text ++ "_" ++ sign.text
  | .extend sign => "i64.extend_i32_" ++ sign.text
  | .convert target source sign => target.text ++ ".convert_" ++ source.text ++ "_" ++ sign.text
  | .demote => "f32.demote_f64"
  | .promote => "f64.promote_f32"
  | .toBits target => target.text ++ ".reinterpret_" ++ target.float.text
  | .ofBits source => source.float.text ++ ".reinterpret_" ++ source.text
  | .extend8 type => type.text ++ ".extend8_s"
  | .extend16 type => type.text ++ ".extend16_s"
  | .extend32 => "i64.extend32_s"

def result : Conversion → ValueType
  | .wrap => .i32
  | .trunc target _ _ => target.valueType
  | .truncSat target _ _ => target.valueType
  | .extend _ => .i64
  | .convert target _ _ => target.valueType
  | .demote => .f32
  | .promote => .f64
  | .toBits target => target.valueType
  | .ofBits source => source.float.valueType
  | .extend8 type => type.valueType
  | .extend16 type => type.valueType
  | .extend32 => .i64

end Conversion

namespace NumType

def all : List NumType := [.int .i32, .int .i64, .float .f32, .float .f64]

end NumType

def Width.text : Width → String
  | .w8 => "8"
  | .w16 => "16"
  | .w32 => "32"

namespace Load

def all : List Load := NumType.all.map .full ++ [.narrow .i32 .w8 .signed, .narrow .i32 .w8 .unsigned, .narrow .i32 .w16 .signed,
      .narrow .i32 .w16 .unsigned, .narrow .i64 .w8 .signed, .narrow .i64 .w8 .unsigned,
      .narrow .i64 .w16 .signed, .narrow .i64 .w16 .unsigned, .narrow .i64 .w32 .signed, .narrow .i64 .w32 .unsigned]

def text : Load → String
  | .full type => type.text ++ ".load"
  | .narrow type width sign => type.text ++ ".load" ++ width.text ++ "_" ++ sign.text

def result : Load → ValueType
  | .full type => type.valueType
  | .narrow type _ _ => type.valueType

end Load

namespace Store

def all : List Store := NumType.all.map .full ++
    [.narrow .i32 .w8, .narrow .i32 .w16, .narrow .i64 .w8, .narrow .i64 .w16, .narrow .i64 .w32]

def text : Store → String
  | .full type => type.text ++ ".store"
  | .narrow type width => type.text ++ ".store" ++ width.text

end Store

namespace Op

def prefixedCode : UInt8 := 0xfc

def runs : List (Nat × List Op) := [(0x00, [.unreachable, .nop, .block, .loop, .ifElse, .elseArm]),
  (0x0b, [.endBlock, .br, .brIf, .brTable, .ret, .call, .callIndirect]), (0x1a, [.drop, .select, .selectTyped]),
  (0x20, [.localGet, .localSet, .localTee, .globalGet, .globalSet, .tableGet, .tableSet]),
  (0x28, Load.all.map .load ++ Store.all.map .store ++ [.memorySize, .memoryGrow]),
  (0x41, NumType.all.map .const), (0x45, .intTest .i32 :: IntCompare.all.map (.intCompare .i32)),
  (0x50, .intTest .i64 :: IntCompare.all.map (.intCompare .i64)),
  (0x5b, FloatCompare.all.map (.floatCompare .f32) ++ FloatCompare.all.map (.floatCompare .f64)),
  (0x67, IntUnary.all.map (.intUnary .i32) ++ IntBinary.all.map (.intBinary .i32)),
  (0x79, IntUnary.all.map (.intUnary .i64) ++ IntBinary.all.map (.intBinary .i64)),
  (0x8b, FloatUnary.all.map (.floatUnary .f32) ++ FloatBinary.all.map (.floatBinary .f32)),
  (0x99, FloatUnary.all.map (.floatUnary .f64) ++ FloatBinary.all.map (.floatBinary .f64)),
  (0xa7, Conversion.all.map .convert), (0xd0, [.refNull, .refIsNull, .refFunc])]

def prefixedRuns : List (Nat × List Op) := [(0, Conversion.saturating.map .convert),
  (10, [.memoryCopy, .memoryFill]), (15, [.tableGrow, .tableSize, .tableFill])]

def lookup? (code : Nat) (table : List (Nat × List Op)) : Option Op :=
  table.findSome? fun (start, ops) => if start ≤ code then ops[code - start]? else none

def position? (op : Op) (table : List (Nat × List Op)) : Option Nat :=
  table.findSome? fun (start, ops) => (ops.idxOf? op).map (start + ·)

def ofCode? (code : UInt8) : Option Op := lookup? code.toNat runs

def ofPrefixedCode? (code : UInt32) : Option Op := lookup? code.toNat prefixedRuns

def codes (op : Op) : UInt8 × UInt32 :=
  match op.position? runs with
  | some code => (UInt8.ofNat code, 0)
  | none => (prefixedCode, UInt32.ofNat ((op.position? prefixedRuns).getD 0))

def text : Op → String
  | .unreachable => "unreachable"
  | .nop => "nop"
  | .block => "block"
  | .loop => "loop"
  | .ifElse => "if"
  | .elseArm => "else"
  | .endBlock => "end"
  | .br => "br"
  | .brIf => "br_if"
  | .brTable => "br_table"
  | .ret => "return"
  | .call => "call"
  | .callIndirect => "call_indirect"
  | .drop => "drop"
  | .select => "select"
  | .selectTyped => "select"
  | .localGet => "local.get"
  | .localSet => "local.set"
  | .localTee => "local.tee"
  | .globalGet => "global.get"
  | .globalSet => "global.set"
  | .tableGet => "table.get"
  | .tableSet => "table.set"
  | .load access => access.text
  | .store access => access.text
  | .memorySize => "memory.size"
  | .memoryGrow => "memory.grow"
  | .const type => type.text ++ ".const"
  | .intTest type => type.text ++ ".eqz"
  | .intCompare type op => type.text ++ "." ++ op.text
  | .floatCompare type op => type.text ++ "." ++ op.text
  | .intUnary type op => type.text ++ "." ++ op.text
  | .intBinary type op => type.text ++ "." ++ op.text
  | .floatUnary type op => type.text ++ "." ++ op.text
  | .floatBinary type op => type.text ++ "." ++ op.text
  | .convert op => op.text
  | .refNull => "ref.null"
  | .refIsNull => "ref.is_null"
  | .refFunc => "ref.func"
  | .memoryCopy => "memory.copy"
  | .memoryFill => "memory.fill"
  | .tableGrow => "table.grow"
  | .tableSize => "table.size"
  | .tableFill => "table.fill"

def all : List Op := (runs ++ prefixedRuns).flatMap Prod.snd

end Op

end WasmLua.Wasm
