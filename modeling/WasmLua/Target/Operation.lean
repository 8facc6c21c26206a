import WasmLua.Target.Statement

/-!
The text of operations: an expression of operators where the target has them, else a call of a
helper.
-/

namespace WasmLua.Target

def helper (namePrefix name : String) : String := namePrefix ++ "_" ++ name

def apply (namePrefix name : String) (args : List String) : String :=
  helper namePrefix name ++ "(" ++ String.intercalate ", " args ++ ")"

def decided (test : String) : String := "(" ++ test ++ ") and 1 or 0"

def unsignedText (value : String) : String := value ++ " % 4294967296"

def compareSymbol : Wasm.FloatCompare → String
  | .eq => "=="
  | .ne => "~="
  | .lt => "<"
  | .gt => ">"
  | .le => "<="
  | .ge => ">="

def compareOf : Wasm.IntCompare → Wasm.FloatCompare × Wasm.Sign
  | .eq => (.eq, .signed)
  | .ne => (.ne, .signed)
  | .lt sign => (.lt, sign)
  | .gt sign => (.gt, sign)
  | .le sign => (.le, sign)
  | .ge sign => (.ge, sign)

def floatUnaryHelper : Wasm.FloatUnary → String
  | .abs => "fabs"
  | .neg => "fneg"
  | .ceil => "fceil"
  | .floor => "ffloor"
  | .trunc => "ftrunc"
  | .nearest => "nearest"
  | .sqrt => "fsqrt"

def floatBinaryHelper : Wasm.FloatBinary → String
  | .add => "fadd"
  | .sub => "fsub"
  | .mul => "fmul"
  | .div => "fdiv"
  | .min => "fmin"
  | .max => "fmax"
  | .copysign => "copysign"

def conversionHelper : Wasm.Conversion → String
  | .wrap => "i32_wrap_i64"
  | .trunc target _ sign => target.text ++ "_trunc_" ++ sign.text
  | .truncSat target _ sign => target.text ++ "_trunc_sat_" ++ sign.text
  | .extend sign => "i64_extend_i32_" ++ sign.text
  | .convert target source sign =>
    target.text ++ "_convert_" ++ source.text ++ "_" ++ sign.text
  | .demote => "fround"
  | .promote => "fround"
  | .toBits target => target.text ++ "_reinterpret_" ++ target.float.text
  | .ofBits source => source.float.text ++ "_reinterpret_" ++ source.text
  | .extend8 type => type.text ++ "_extend8_s"
  | .extend16 type => type.text ++ "_extend16_s"
  | .extend32 => "i64_extend32_s"

def roundsUnary : Wasm.FloatUnary → Bool
  | .sqrt => true
  | _ => false

def roundsBinary : Wasm.FloatBinary → Bool
  | .add => true
  | .sub => true
  | .mul => true
  | .div => true
  | _ => false

def rounded (namePrefix : String) (type : Wasm.FloatType) (rounds : Bool) (value : String) : String :=
  if type == .f32 && rounds then apply namePrefix "fround" [value] else value

def Unary.text (namePrefix : String) (op : Unary) (a : String) : String :=
  match op with
  | .intTest .i32 => decided (a ++ " == 0")
  | .intTest .i64 => apply namePrefix "i64_eqz" [a]
  | .int type op => apply namePrefix (type.text ++ "_" ++ op.text) [a]
  | .float type op =>
    rounded namePrefix type (roundsUnary op) (apply namePrefix (floatUnaryHelper op) [a])
  | .convert op => apply namePrefix (conversionHelper op) [a]
  | .isNull => decided (a ++ " == nil")

def Binary.text (namePrefix : String) (op : Binary) (a b : String) : String :=
  match op with
  | .intCompare .i32 op =>
    match compareOf op with
    | (order, .signed) => decided (a ++ " " ++ compareSymbol order ++ " " ++ b)
    | (order, .unsigned) =>
      decided (unsignedText a ++ " " ++ compareSymbol order ++ " " ++ unsignedText b)
  | .intCompare .i64 op => apply namePrefix ("i64_" ++ op.text) [a, b]
  | .floatCompare _ op => decided (a ++ " " ++ compareSymbol op ++ " " ++ b)
  | .int type op => apply namePrefix (type.text ++ "_" ++ op.text) [a, b]
  | .float type op =>
    rounded namePrefix type (roundsBinary op) (apply namePrefix (floatBinaryHelper op) [a, b])

def loadHelper : Wasm.Load → String
  | .full type => type.text ++ "_load"
  | .narrow .i32 width sign => "load" ++ width.text ++ "_" ++ sign.text
  | .narrow .i64 width sign => "i64_load" ++ width.text ++ "_" ++ sign.text

def storeHelper : Wasm.Store → String
  | .full type => type.text ++ "_store"
  | .narrow .i32 width => "store" ++ width.text
  | .narrow .i64 width => "i64_store" ++ width.text

end WasmLua.Target
