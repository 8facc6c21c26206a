import WasmLua.Number.Basic

namespace WasmLua

namespace Format

def fractionBits (format : Format) : Nat := format.precision - 1

def decode (format : Format) (bits : Nat) : Number :=
  let fraction := bits % Nat.pow 2 format.fractionBits
  let field := bits / Nat.pow 2 format.fractionBits % Nat.pow 2 format.exponentBits
  let negative := bits / Nat.pow 2 (format.fractionBits + format.exponentBits) % 2 == 1
  if field = Nat.pow 2 format.exponentBits - 1 then
    if fraction = 0 then .infinity negative else .nan
  else
    let magnitude : Rat :=
      if field = 0 then (fraction : Rat) * pow2 format.minExponent
      else ((Nat.pow 2 format.fractionBits + fraction : Nat) : Rat) * pow2 ((field : Int) - 1 + format.minExponent)
    if negative then (if magnitude.num == 0 then .negZero else .finite (-magnitude))
    else .finite magnitude

def encodeMagnitude (format : Format) (value : Rat) : Nat :=
  let exponent := format.unitExponent value
  let significand := (value * pow2 (-exponent)).num.natAbs
  if significand < Nat.pow 2 format.fractionBits then significand
  else
    let field := (exponent - format.minExponent + 1).toNat
    field * Nat.pow 2 format.fractionBits + (significand - Nat.pow 2 format.fractionBits)

def encode (format : Format) (number : Number) : Nat :=
  let sign := Nat.pow 2 (format.fractionBits + format.exponentBits)
  let special := (Nat.pow 2 format.exponentBits - 1) * Nat.pow 2 format.fractionBits
  match number with
  | .nan => special + Nat.pow 2 (format.fractionBits - 1)
  | .infinity negative => special + if negative then sign else 0
  | .negZero => sign
  | .finite value =>
    if value.num == 0 then 0
    else format.encodeMagnitude value + if value.num < 0 then sign else 0

end Format

namespace Number

def ofBits32 (bits : UInt32) : Number := Format.binary32.decode bits.toNat
def ofBits64 (bits : UInt64) : Number := Format.binary64.decode bits.toNat
def toBits64 (number : Number) : UInt64 := UInt64.ofNat (Format.binary64.encode number)

def toFormat (format : Format) (number : Number) : Number :=
  match number with
  | .finite value => roundSigned format (decide (value.num < 0)) value
  | other => other

def toBits32 (number : Number) : UInt32 := UInt32.ofNat (Format.binary32.encode (number.toFormat .binary32))

end Number

end WasmLua
