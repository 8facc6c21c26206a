import WasmLua.Number.Bits
import WasmLua.Text.Quoted

/-!
Literals of the command line: booleans, integers in base 2, 8, 10 or 16 with an optional base mark,
and decimal or hexadecimal floats.
-/

namespace WasmLua

inductive LiteralKind where
  | boolean
  | unsigned
  | float
deriving DecidableEq, Repr

inductive LiteralFault where
  | malformed
  | outOfRange
deriving DecidableEq, Repr

structure LiteralError where
  kind : LiteralKind
  text : Bytes
  fault : LiteralFault
deriving DecidableEq, Repr

def LiteralKind.reader : LiteralKind → String
  | .boolean => "ParseBool"
  | .unsigned => "ParseUint"
  | .float => "ParseFloat"

def LiteralFault.message : LiteralFault → String
  | .malformed => "invalid syntax"
  | .outOfRange => "value out of range"

def LiteralError.message (error : LiteralError) : String :=
  "strconv." ++ error.kind.reader ++ ": parsing " ++ Quoted.bytes error.text ++ ": " ++ error.fault.message

namespace Literal

def lower (byte : UInt8) : UInt8 :=
  if 0x41 ≤ byte && byte ≤ 0x5a then byte + 0x20 else byte

def code (value : Char) : UInt8 := UInt8.ofNat value.toNat

def isDecimal (byte : UInt8) : Bool := code '0' ≤ byte && byte ≤ code '9'

def digit? (byte : UInt8) : Option Nat :=
  if isDecimal byte then some (byte.toNat - 48)
  else if code 'a' ≤ lower byte && lower byte ≤ code 'z' then some ((lower byte).toNat - 87)
  else none

def boolean (text : Bytes) : Except LiteralError Bool :=
  if ["1", "t", "T", "TRUE", "true", "True"].any (Bytes.ofString · == text) then .ok true
  else if ["0", "f", "F", "FALSE", "false", "False"].any (Bytes.ofString · == text) then .ok false
  else .error ⟨.boolean, text, .malformed⟩

inductive Before where
  | start
  | digit
  | underscore
  | other
deriving DecidableEq

def underscoresFit (hexadecimal : Bool) : Before → Bytes → Bool
  | before, [] => before != .underscore
  | before, byte :: rest =>
    if isDecimal byte || (hexadecimal && code 'a' ≤ lower byte && lower byte ≤ code 'f') then
      underscoresFit hexadecimal .digit rest
    else if byte == code '_' then
      before == .digit && underscoresFit hexadecimal .underscore rest
    else before != .underscore && underscoresFit hexadecimal .other rest

def splitSign : Bytes → Bool × Bytes
  | [] => (false, [])
  | byte :: rest =>
    if byte == code '-' then (true, rest)
    else if byte == code '+' then (false, rest)
    else (false, byte :: rest)

def separated (text : Bytes) : Bool :=
  match (splitSign text).2 with
  | zero :: mark :: rest =>
    if zero == code '0' && [code 'b', code 'o', code 'x'].contains (lower mark) then
      underscoresFit (lower mark == code 'x') .digit rest
    else underscoresFit false .start (zero :: mark :: rest)
  | body => underscoresFit false .start body

def splitBase : Bytes → Nat × Bytes
  | zero :: mark :: digit :: rest =>
    if zero != code '0' then (10, zero :: mark :: digit :: rest)
    else if lower mark == code 'b' then (2, digit :: rest)
    else if lower mark == code 'o' then (8, digit :: rest)
    else if lower mark == code 'x' then (16, digit :: rest)
    else (8, mark :: digit :: rest)
  | zero :: rest => if zero == code '0' then (8, rest) else (10, zero :: rest)
  | [] => (10, [])

def digits (base limit : Nat) : Nat → Bytes → Except LiteralFault Nat
  | value, [] => .ok value
  | value, byte :: rest =>
    if byte == code '_' then digits base limit value rest
    else match digit? byte with
      | none => .error .malformed
      | some digit =>
        if base ≤ digit then .error .malformed
        else if limit < value * base + digit then .error .outOfRange
        else digits base limit (value * base + digit) rest

def unsigned (width : Nat) (text : Bytes) : Except LiteralError Nat :=
  let fail (fault : LiteralFault) : Except LiteralError Nat := .error ⟨.unsigned, text, fault⟩
  if text.isEmpty then fail .malformed
  else
    let (base, body) := splitBase text
    match digits base (Nat.pow 2 width - 1) 0 body with
    | .error fault => fail fault
    | .ok value =>
      if text.any (· == code '_') && !separated text then fail .malformed else .ok value

def signed? (width : Nat) (text : Bytes) : Option Int :=
  let (negative, body) := splitSign text
  match unsigned width body with
  | .error _ => none
  | .ok value =>
    if negative then (if value ≤ Nat.pow 2 (width - 1) then some (-(value : Int)) else none)
    else if value < Nat.pow 2 (width - 1) then some (value : Int)
    else none

structure Significand where
  value : Nat := 0
  fraction : Nat := 0
  point : Bool := false
  any : Bool := false

def significand (base : Nat) : Significand → Bytes → Significand × Bytes
  | seen, [] => (seen, [])
  | seen, byte :: rest =>
    if byte == code '_' then significand base seen rest
    else if byte == code '.' && !seen.point then significand base { seen with point := true } rest
    else match digit? byte with
      | none => (seen, byte :: rest)
      | some digit =>
        if base ≤ digit then (seen, byte :: rest)
        else
          significand base
            { seen with
              value := seen.value * base + digit
              fraction := if seen.point then seen.fraction + 1 else seen.fraction
              any := true }
            rest

def exponentDigits : Nat → Bytes → Nat × Bytes
  | value, [] => (value, [])
  | value, byte :: rest =>
    if byte == code '_' then exponentDigits value rest
    else if isDecimal byte then
      exponentDigits (if value < 10000 then value * 10 + (byte.toNat - 48) else value) rest
    else (value, byte :: rest)

def exponent? (text : Bytes) : Option (Int × Bytes) :=
  let (negative, body) := splitSign text
  match body with
  | byte :: _ =>
    if isDecimal byte then
      let (value, rest) := exponentDigits 0 body
      some (if negative then -(value : Int) else (value : Int), rest)
    else none
  | [] => none

def special? (text : Bytes) : Option Number :=
  let (negative, body) := splitSign text
  let name := body.map lower
  if name == Bytes.ofString "inf" || name == Bytes.ofString "infinity" then some (.infinity negative)
  else if text.map lower == Bytes.ofString "nan" then some .nan
  else none

def power (base : Nat) (exponent : Int) : Rat :=
  if 0 ≤ exponent then (Nat.pow base exponent.toNat : Rat) else mkRat 1 (Nat.pow base (-exponent).toNat)

def magnitude? (text : Bytes) : Option Rat :=
  let (hexadecimal, body) := match text with
    | zero :: mark :: digit :: rest =>
      if zero == code '0' && lower mark == code 'x' then (true, digit :: rest) else (false, text)
    | _ => (false, text)
  let (seen, rest) := significand (if hexadecimal then 16 else 10) {} body
  let scaled (exponent : Int) : Rat :=
    if hexadecimal then (seen.value : Rat) * power 2 (exponent - 4 * (seen.fraction : Int))
    else (seen.value : Rat) * power 10 (exponent - (seen.fraction : Int))
  if !seen.any then none
  else match rest with
    | [] => if hexadecimal then none else some (scaled 0)
    | mark :: rest =>
      if lower mark == (if hexadecimal then code 'p' else code 'e') then
        match exponent? rest with
        | some (exponent, []) => some (scaled exponent)
        | _ => none
      else none

def float (format : Format) (text : Bytes) : Except LiteralError Number :=
  match special? text with
  | some number => .ok number
  | none =>
    let (negative, body) := splitSign text
    match magnitude? body with
    | none => .error ⟨.float, text, .malformed⟩
    | some size =>
      if text.any (· == code '_') && !separated text then .error ⟨.float, text, .malformed⟩
      else match Number.roundSigned format negative (if negative then -size else size) with
        | .infinity _ => .error ⟨.float, text, .outOfRange⟩
        | number => .ok number

def isBlank (byte : UInt8) : Bool := byte == code ' ' || byte == code '\t' || byte == code '\n'

def trim (text : Bytes) : Bytes := ((text.dropWhile isBlank).reverse.dropWhile isBlank).reverse

def numeral? (text : Bytes) : Option Number :=
  let body := trim text
  match signed? 64 body with
  | some value => some (Number.round (value : Rat))
  | none => (float .binary64 body).toOption

end Literal

end WasmLua
