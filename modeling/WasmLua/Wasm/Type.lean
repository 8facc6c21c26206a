import WasmLua.Text.Quoted

namespace WasmLua.Wasm

inductive ValueType where
  | any
  | i32
  | i64
  | f32
  | f64
  | funcref
  | externref
  | other (byte : UInt8)
deriving DecidableEq, Repr, Inhabited

namespace ValueType

def ofByte (byte : UInt8) : ValueType :=
  match byte with
  | 0x00 => .any
  | 0x7f => .i32
  | 0x7e => .i64
  | 0x7d => .f32
  | 0x7c => .f64
  | 0x70 => .funcref
  | 0x6f => .externref
  | _ => .other byte

def toByte : ValueType → UInt8
  | .any => 0x00
  | .i32 => 0x7f
  | .i64 => 0x7e
  | .f32 => 0x7d
  | .f64 => 0x7c
  | .funcref => 0x70
  | .externref => 0x6f
  | .other byte => byte

def text : ValueType → String
  | .any => "t"
  | .i32 => "i32"
  | .i64 => "i64"
  | .f32 => "f32"
  | .f64 => "f64"
  | .funcref => "funcref"
  | .externref => "externref"
  | .other byte => s!"<unknown value_type {byte.toNat}>"

def isReference : ValueType → Bool
  | .funcref => true
  | .externref => true
  | _ => false

def key : ValueType → UInt8
  | .i32 => 0x69
  | .i64 => 0x49
  | .f32 => 0x66
  | .f64 => 0x46
  | .funcref => 0x61
  | .externref => 0x65
  | _ => 0x3f

def ofKey? (key : UInt8) : Option ValueType :=
  match key with
  | 0x69 => some .i32
  | 0x49 => some .i64
  | 0x66 => some .f32
  | 0x46 => some .f64
  | 0x61 => some .funcref
  | 0x65 => some .externref
  | _ => none

end ValueType

structure Signature where
  params : List ValueType
  results : List ValueType
deriving DecidableEq, Repr, Inhabited

namespace Signature

def listText (types : List ValueType) : String := "(" ++ String.intercalate ", " (types.map ValueType.text) ++ ")"

def text (signature : Signature) : String := listText signature.params ++ " -> " ++ listText signature.results

def key (signature : Signature) : Bytes :=
  0x70 :: signature.params.map ValueType.key ++ 0x72 :: signature.results.map ValueType.key

def same (a b : Signature) : Bool := a.key == b.key

def ofKey? : Bytes → Option Signature
  | 0x70 :: rest => do
    match rest.dropWhile (· != 0x72) with
    | _ :: results =>
      let params ← (rest.takeWhile (· != 0x72)).mapM ValueType.ofKey?
      let results ← results.mapM ValueType.ofKey?
      return ⟨params, results⟩
    | [] => none
  | _ => none

def malformedKey (key : Bytes) : String := "malformed signature key " ++ Quoted.bytes key

end Signature

structure GlobalType where
  type : ValueType
  mutable : Bool
deriving DecidableEq, Repr, Inhabited

structure Limits where
  initial : UInt32
  maximum : Option UInt32
deriving DecidableEq, Repr, Inhabited

inductive ExternKind where
  | func
  | table
  | memory
  | global
  | other (byte : UInt8)
deriving DecidableEq, Repr, Inhabited

namespace ExternKind

def ofByte (byte : UInt8) : ExternKind :=
  match byte with
  | 0 => .func
  | 1 => .table
  | 2 => .memory
  | 3 => .global
  | _ => .other byte

def toByte : ExternKind → UInt8
  | .func => 0
  | .table => 1
  | .memory => 2
  | .global => 3
  | .other byte => byte

def text : ExternKind → String
  | .func => "func"
  | .table => "table"
  | .memory => "memory"
  | .global => "global"
  | .other byte => s!"<unknown external_kind {byte.toNat}>"

def ofText? (text : Bytes) : Option ExternKind := [func, table, memory, global].find? fun kind => Bytes.ofString kind.text == text

end ExternKind

def pageSize : Nat := 65536

def maxPages : Nat := 65536

end WasmLua.Wasm
