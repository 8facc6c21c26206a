import WasmLua.Prelude.Chapter

namespace WasmLua.Prelude

def floatLines : List String := [
"-- Floating point. f32 values are numbers that are exactly representable as binary32.",
"",
"local function round_even(x)",
"	local f = floor(x)",
"	local d = x - f",
"	if d > 0.5 then",
"		return f + 1",
"	elseif d < 0.5 then",
"		return f",
"	elseif f % 2 == 0 then",
"		return f",
"	end",
"	return f + 1",
"end",
"",
"-- fround rounds a number to the nearest binary32 value, ties to even.",
"local function fround(x)",
"	if x ~= x or x == 0 or x == huge or x == -huge then",
"		return x",
"	end",
"	local m, e = frexp(x)",
"	local p = 24",
"	if e < -125 then",
"		p = 24 + (e + 125)",
"	end",
"	if p < 0 then",
"		if x < 0 then",
"			return NEG_ZERO",
"		end",
"		return 0",
"	end",
"	local r = round_even(ldexp(m, p))",
"	if r == 0 then",
"		if x < 0 then",
"			return NEG_ZERO",
"		end",
"		return 0",
"	end",
"	x = ldexp(r, e - p)",
"	if x >= TWO128 then",
"		return huge",
"	elseif x <= -TWO128 then",
"		return -huge",
"	end",
"	return x",
"end",
"rt.fround = fround",
"",
"local function signbit(x)",
"	return x < 0 or (x == 0 and 1 / x < 0)",
"end",
"",
"function rt.fmin(a, b)",
"	if a ~= a or b ~= b then",
"		return NAN",
"	end",
"	if a == b then",
"		if signbit(a) then",
"			return a",
"		end",
"		return b",
"	end",
"	if a < b then",
"		return a",
"	end",
"	return b",
"end",
"",
"function rt.fmax(a, b)",
"	if a ~= a or b ~= b then",
"		return NAN",
"	end",
"	if a == b then",
"		if signbit(a) then",
"			return b",
"		end",
"		return a",
"	end",
"	if a > b then",
"		return a",
"	end",
"	return b",
"end",
"",
"function rt.copysign(a, b)",
"	a = abs(a)",
"	if signbit(b) then",
"		if a == 0 then",
"			return NEG_ZERO",
"		end",
"		return -a",
"	end",
"	return a",
"end",
"",
"function rt.fneg(x)",
"	if x == 0 then",
"		if signbit(x) then",
"			return 0",
"		end",
"		return NEG_ZERO",
"	end",
"	return -x",
"end",
"",
"function rt.fadd(a, b)",
"	local r = a + b",
"	if r == 0 and signbit(a) and signbit(b) then",
"		return NEG_ZERO",
"	end",
"	return r",
"end",
"",
"function rt.fsub(a, b)",
"	local r = a - b",
"	if r == 0 and signbit(a) and not signbit(b) then",
"		return NEG_ZERO",
"	end",
"	return r",
"end",
"",
"function rt.fmul(a, b)",
"	local r = a * b",
"	if r == 0 and signbit(a) ~= signbit(b) then",
"		return NEG_ZERO",
"	end",
"	return r",
"end",
"",
"function rt.fdiv(a, b)",
"	local r = a / b",
"	if r == 0 and signbit(a) ~= signbit(b) then",
"		return NEG_ZERO",
"	end",
"	return r",
"end",
"",
"function rt.ftrunc(x)",
"	if x ~= x then",
"		return x",
"	end",
"	return trunc(x)",
"end",
"",
"function rt.nearest(x)",
"	if x ~= x or x == 0 or x == huge or x == -huge then",
"		return x",
"	end",
"	local r = round_even(x)",
"	if r == 0 and x < 0 then",
"		return NEG_ZERO",
"	end",
"	return r",
"end",
"",
"rt.fabs = abs",
"rt.ffloor = floor",
"rt.fceil = ceil",
"rt.fsqrt = sqrt",
""]

def floatHelpers : List String :=
  ["fround", "fmin", "fmax", "copysign", "fneg", "fadd", "fsub", "fmul", "fdiv", "ftrunc",
    "nearest", "fabs", "ffloor", "fceil", "fsqrt"]

def floatLocals : List String :=
  ["round_even", "fround", "signbit"]

def float : Chapter := ⟨floatLines, floatHelpers, floatLocals⟩

end WasmLua.Prelude
