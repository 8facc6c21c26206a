import WasmLua.Prelude.Chapter

namespace WasmLua.Prelude

def conversionLines : List String := [
"-- Conversions between integers and floats.",
"",
"function rt.i32_trunc_s(x)",
"	if x ~= x then",
"		trap(\"invalid conversion to integer\")",
"	end",
"	x = trunc(x)",
"	if x < -TWO31 or x >= TWO31 then",
"		trap(\"integer overflow\")",
"	end",
"	return x + 0",
"end",
"",
"function rt.i32_trunc_u(x)",
"	if x ~= x then",
"		trap(\"invalid conversion to integer\")",
"	end",
"	x = trunc(x)",
"	if x <= -1 or x >= TWO32 then",
"		trap(\"integer overflow\")",
"	end",
"	return wrap32(x)",
"end",
"",
"function rt.i32_trunc_sat_s(x)",
"	if x ~= x then",
"		return 0",
"	elseif x < -TWO31 then",
"		return -TWO31",
"	elseif x >= TWO31 then",
"		return TWO31 - 1",
"	end",
"	return trunc(x) + 0",
"end",
"",
"function rt.i32_trunc_sat_u(x)",
"	if x ~= x or x <= -1 then",
"		return 0",
"	elseif x >= TWO32 then",
"		return -1",
"	end",
"	return wrap32(trunc(x))",
"end",
"",
"-- num64 converts an integral number in [-2^63, 2^64) to an i64.",
"local function num64(x)",
"	local hi = floor(x / TWO32)",
"	return \x7b x - hi * TWO32, hi % TWO32 + 0 \x7d",
"end",
"",
"function rt.i64_trunc_s(x)",
"	if x ~= x then",
"		trap(\"invalid conversion to integer\")",
"	end",
"	x = trunc(x)",
"	if x < -TWO63 or x >= TWO63 then",
"		trap(\"integer overflow\")",
"	end",
"	return num64(x)",
"end",
"",
"function rt.i64_trunc_u(x)",
"	if x ~= x then",
"		trap(\"invalid conversion to integer\")",
"	end",
"	x = trunc(x)",
"	if x <= -1 or x >= TWO64 then",
"		trap(\"integer overflow\")",
"	end",
"	return num64(x)",
"end",
"",
"function rt.i64_trunc_sat_s(x)",
"	if x ~= x then",
"		return I64_ZERO",
"	elseif x < -TWO63 then",
"		return \x7b 0, TWO31 \x7d",
"	elseif x >= TWO63 then",
"		return \x7b TWO32 - 1, TWO31 - 1 \x7d",
"	end",
"	return num64(trunc(x))",
"end",
"",
"function rt.i64_trunc_sat_u(x)",
"	if x ~= x or x <= -1 then",
"		return I64_ZERO",
"	elseif x >= TWO64 then",
"		return \x7b TWO32 - 1, TWO32 - 1 \x7d",
"	end",
"	return num64(trunc(x))",
"end",
"",
"function rt.f32_convert_i32_s(x)",
"	return fround(x + 0)",
"end",
"",
"function rt.f32_convert_i32_u(x)",
"	return fround(x % TWO32)",
"end",
"",
"function rt.f64_convert_i32_u(x)",
"	return x % TWO32",
"end",
"",
"function rt.f64_convert_i64_s(a)",
"	local hi = a[2]",
"	if hi >= TWO31 then",
"		hi = hi - TWO32",
"	end",
"	return hi * TWO32 + a[1]",
"end",
"",
"function rt.f64_convert_i64_u(a)",
"	return a[2] * TWO32 + a[1]",
"end",
"",
"-- u64f32 rounds the unsigned value hi*2^32+lo to binary32 with a single rounding. Values that do",
"-- not fit in 53 bits are first narrowed with round-to-odd.",
"local function u64f32(lo, hi)",
"	if hi < 2097152 then",
"		return fround(hi * TWO32 + lo)",
"	end",
"	local s, h = 0, hi",
"	while h >= 2097152 do",
"		h, s = floor(h / 2), s + 1",
"	end",
"	local p = POW2[s]",
"	local hlow = hi % p",
"	local q = (hi - hlow) / p * TWO32 + hlow * POW2[32 - s] + floor(lo / p)",
"	if lo % p ~= 0 and q % 2 == 0 then",
"		q = q + 1",
"	end",
"	return fround(q * p)",
"end",
"",
"function rt.f32_convert_i64_s(a)",
"	if isneg64(a) then",
"		local n = neg64(a)",
"		return -u64f32(n[1], n[2])",
"	end",
"	return u64f32(a[1], a[2])",
"end",
"",
"function rt.f32_convert_i64_u(a)",
"	return u64f32(a[1], a[2])",
"end",
"",
"-- Reinterpretation. NaN payloads are not observable and are canonicalized.",
"",
"function rt.i32_reinterpret_f32(x)",
"	if x ~= x then",
"		return 2143289344",
"	end",
"	local sign = 0",
"	if signbit(x) then",
"		sign, x = TWO31, -x",
"	end",
"	local bits",
"	if x == huge then",
"		bits = 2139095040",
"	elseif x == 0 then",
"		bits = 0",
"	else",
"		local m, e = frexp(x)",
"		local biased = e + 126",
"		if biased <= 0 then",
"			bits = ldexp(x, 149)",
"		else",
"			bits = biased * 8388608 + (m * 2 - 1) * 8388608",
"		end",
"	end",
"	return wrap32(sign + bits)",
"end",
"",
"function rt.f32_reinterpret_i32(v)",
"	v = v % TWO32",
"	local sign = 1",
"	if v >= TWO31 then",
"		sign, v = -1, v - TWO31",
"	end",
"	local biased = floor(v / 8388608)",
"	local frac = v % 8388608",
"	if biased == 255 then",
"		if frac == 0 then",
"			return sign * huge",
"		end",
"		return NAN",
"	elseif biased == 0 then",
"		if frac == 0 and sign < 0 then",
"			return NEG_ZERO",
"		end",
"		return sign * ldexp(frac, -149)",
"	end",
"	return sign * ldexp(frac + 8388608, biased - 150)",
"end",
"",
"function rt.i64_reinterpret_f64(x)",
"	if x ~= x then",
"		return \x7b 0, 2146959360 \x7d",
"	end",
"	local sign = 0",
"	if signbit(x) then",
"		sign, x = TWO31, -x",
"	end",
"	if x == huge then",
"		return \x7b 0, 2146435072 + sign \x7d",
"	elseif x == 0 then",
"		return \x7b 0, sign \x7d",
"	end",
"	local m, e = frexp(x)",
"	local biased = e + 1022",
"	local mant",
"	if biased <= 0 then",
"		biased, mant = 0, ldexp(x, 1074)",
"	else",
"		mant = (m * 2 - 1) * TWO52",
"	end",
"	local mh = floor(mant / TWO32)",
"	return \x7b mant - mh * TWO32, biased * 1048576 + mh + sign \x7d",
"end",
"",
"function rt.f64_reinterpret_i64(a)",
"	local lo, hi = a[1], a[2]",
"	local sign = 1",
"	if hi >= TWO31 then",
"		sign, hi = -1, hi - TWO31",
"	end",
"	local biased = floor(hi / 1048576)",
"	local mant = (hi % 1048576) * TWO32 + lo",
"	if biased == 2047 then",
"		if mant == 0 then",
"			return sign * huge",
"		end",
"		return NAN",
"	elseif biased == 0 then",
"		if mant == 0 and sign < 0 then",
"			return NEG_ZERO",
"		end",
"		return sign * ldexp(mant, -1074)",
"	end",
"	return sign * ldexp(mant + TWO52, biased - 1075)",
"end",
""]

def conversionHelpers : List String :=
  ["i32_trunc_s", "i32_trunc_u", "i32_trunc_sat_s", "i32_trunc_sat_u", "i64_trunc_s",
    "i64_trunc_u", "i64_trunc_sat_s", "i64_trunc_sat_u", "f32_convert_i32_s", "f32_convert_i32_u",
    "f64_convert_i32_u", "f64_convert_i64_s", "f64_convert_i64_u", "f32_convert_i64_s",
    "f32_convert_i64_u", "i32_reinterpret_f32", "f32_reinterpret_i32", "i64_reinterpret_f64",
    "f64_reinterpret_i64"]

def conversionLocals : List String :=
  ["num64", "u64f32"]

def conversion : Chapter := ⟨conversionLines, conversionHelpers, conversionLocals⟩

end WasmLua.Prelude
