import WasmLua.Number.Basic

/-!
Decimal text of numbers: the fewest significant digits that read back as the same number of a
format, the nearest of those, laid out positionally or with an exponent.
-/

namespace WasmLua

structure Decimal where
  coefficient : Nat
  exponent : Int
deriving DecidableEq, Repr

def pow10 : Int → Rat
  | .ofNat n => (Nat.pow 10 n : Rat)
  | .negSucc n => mkRat 1 (Nat.pow 10 (n + 1))

def decimalExponent (value : Rat) : Int :=
  let guess := (binaryExponent value * 30103).fdiv 100000
  if value < pow10 guess then guess - 1
  else if value < pow10 (guess + 1) then guess
  else guess + 1

namespace Decimal

structure Interval where
  low : Rat
  high : Rat
  closed : Bool

def Interval.contains (interval : Interval) (value : Rat) : Bool :=
  if interval.closed then decide (interval.low ≤ value) && decide (value ≤ interval.high)
  else decide (interval.low < value) && decide (value < interval.high)

def interval (format : Format) (value : Rat) : Interval :=
  let exponent := format.unitExponent value
  let unit := pow2 exponent
  let significand := (value * pow2 (-exponent)).num.natAbs
  let narrow := significand = Nat.pow 2 (format.precision - 1) ∧ format.minExponent < exponent
  let below := if narrow then unit * pow2 (-2) else unit * pow2 (-1)
  ⟨value - below, value + unit * pow2 (-1), significand % 2 == 0⟩

def candidate? (bounds : Interval) (value : Rat) (exponent : Int) : Option Decimal :=
  let unit := pow10 exponent
  let lower := (value / unit).floor.toNat
  let low := (lower : Rat) * unit
  let high := low + unit
  match bounds.contains low, bounds.contains high with
  | true, true =>
    if value - low < high - value ∨ value - low = high - value ∧ lower % 2 = 0 then
      some ⟨lower, exponent⟩
    else some ⟨lower + 1, exponent⟩
  | true, false => some ⟨lower, exponent⟩
  | false, true => some ⟨lower + 1, exponent⟩
  | false, false => none

def search (bounds : Interval) (value : Rat) : Nat → Int → Decimal
  | 0, exponent => ⟨(value / pow10 exponent).floor.toNat, exponent⟩
  | remaining + 1, exponent =>
    match candidate? bounds value exponent with
    | some found => found
    | none => search bounds value remaining (exponent - 1)

def shortest (format : Format) (value : Rat) : Decimal := search (interval format value) value 20 (decimalExponent value)

end Decimal

structure DecimalLayout where
  leastPositional : Int
  exponentFrom : Int
  exponentDigits : Nat

namespace DecimalLayout

def general : DecimalLayout := ⟨-4, 6, 2⟩

def writtenExponent (layout : DecimalLayout) (exponent : Int) : List Char :=
  let digits := Nat.toDigits 10 exponent.natAbs
  'e' :: (if exponent < 0 then '-' else '+') :: List.replicate (layout.exponentDigits - digits.length) '0' ++ digits

def pointAfter (whole : Nat) (digits : List Char) : List Char :=
  let front := digits.take whole ++ List.replicate (whole - digits.length) '0'
  match digits.drop whole with
  | [] => front
  | rest => front ++ '.' :: rest

def write (layout : DecimalLayout) (decimal : Decimal) : String :=
  let all := Nat.toDigits 10 decimal.coefficient
  let exponent := decimal.exponent + (all.length : Int) - 1
  let digits := (all.reverse.dropWhile (· == '0')).reverse
  String.ofList <|
    if exponent < layout.leastPositional ∨ layout.exponentFrom ≤ exponent then
      pointAfter 1 digits ++ layout.writtenExponent exponent
    else if exponent < 0 then
      '0' :: '.' :: List.replicate ((-exponent).toNat - 1) '0' ++ digits
    else pointAfter (exponent.toNat + 1) digits

end DecimalLayout

namespace Number

def text (format : Format) : Number → String
  | .nan => "NaN"
  | .infinity negative => if negative then "-Inf" else "+Inf"
  | .negZero => "-0"
  | .finite value =>
    if value.num == 0 then "0"
    else
      let size := if value.num < 0 then -value else value
      let digits := DecimalLayout.general.write (Decimal.shortest format size)
      if value.num < 0 then "-" ++ digits else digits

end Number

end WasmLua
