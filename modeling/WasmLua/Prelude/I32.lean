import WasmLua.Prelude.Chapter

namespace WasmLua.Prelude

def i32Lines : List String := [
"-- i32 values are numbers in [-2^31, 2^31). Zero is always +0.",
"",
"local function wrap32(x)",
"	x = x % TWO32",
"	if x >= TWO31 then",
"		return x - TWO32",
"	end",
"	return x + 0",
"end",
"",
"local function trunc(x)",
"	if x >= 0 then",
"		return floor(x)",
"	end",
"	return ceil(x)",
"end",
"",
"local AND4, OR4, XOR4 = \x7b\x7d, \x7b\x7d, \x7b\x7d",
"for a = 0, 15 do",
"	for b = 0, 15 do",
"		local rand, ror, rxor, bit = 0, 0, 0, 1",
"		local x, y = a, b",
"		for _ = 1, 4 do",
"			local xb, yb = x % 2, y % 2",
"			if xb == 1 and yb == 1 then",
"				rand = rand + bit",
"			end",
"			if xb == 1 or yb == 1 then",
"				ror = ror + bit",
"			end",
"			if xb ~= yb then",
"				rxor = rxor + bit",
"			end",
"			x, y, bit = (x - xb) / 2, (y - yb) / 2, bit * 2",
"		end",
"		AND4[a * 16 + b], OR4[a * 16 + b], XOR4[a * 16 + b] = rand, ror, rxor",
"	end",
"end",
"",
"-- bitop applies a 4-bit lookup table to each nibble of two unsigned 32-bit values.",
"local function bitop(t, a, b)",
"	local r, p = 0, 1",
"	for _ = 1, 8 do",
"		local an, bn = a % 16, b % 16",
"		r = r + t[an * 16 + bn] * p",
"		a, b, p = (a - an) / 16, (b - bn) / 16, p * 16",
"	end",
"	return r",
"end",
"",
"function rt.i32_add(a, b)",
"	return wrap32(a + b)",
"end",
"",
"function rt.i32_sub(a, b)",
"	return wrap32(a - b)",
"end",
"",
"function rt.i32_mul(a, b)",
"	a, b = a % TWO32, b % TWO32",
"	local al = a % TWO16",
"	local ah = (a - al) / TWO16",
"	return wrap32(al * b + ((ah * b) % TWO16) * TWO16)",
"end",
"",
"function rt.i32_div_s(a, b)",
"	if b == 0 then",
"		trap(\"integer divide by zero\")",
"	end",
"	if a == -TWO31 and b == -1 then",
"		trap(\"integer overflow\")",
"	end",
"	return trunc(a / b) + 0",
"end",
"",
"function rt.i32_div_u(a, b)",
"	if b == 0 then",
"		trap(\"integer divide by zero\")",
"	end",
"	return wrap32(floor((a % TWO32) / (b % TWO32)))",
"end",
"",
"function rt.i32_rem_s(a, b)",
"	if b == 0 then",
"		trap(\"integer divide by zero\")",
"	end",
"	return fmod(a, b) + 0",
"end",
"",
"function rt.i32_rem_u(a, b)",
"	if b == 0 then",
"		trap(\"integer divide by zero\")",
"	end",
"	return wrap32(fmod(a % TWO32, b % TWO32))",
"end",
"",
"function rt.i32_and(a, b)",
"	return wrap32(bitop(AND4, a % TWO32, b % TWO32))",
"end",
"",
"function rt.i32_or(a, b)",
"	return wrap32(bitop(OR4, a % TWO32, b % TWO32))",
"end",
"",
"function rt.i32_xor(a, b)",
"	return wrap32(bitop(XOR4, a % TWO32, b % TWO32))",
"end",
"",
"function rt.i32_shl(a, b)",
"	local k = b % 32",
"	return wrap32((a % POW2[32 - k]) * POW2[k])",
"end",
"",
"function rt.i32_shr_s(a, b)",
"	return floor(a / POW2[b % 32]) + 0",
"end",
"",
"function rt.i32_shr_u(a, b)",
"	return wrap32(floor((a % TWO32) / POW2[b % 32]))",
"end",
"",
"function rt.i32_rotl(a, b)",
"	local k = b % 32",
"	a = a % TWO32",
"	local low = a % POW2[32 - k]",
"	return wrap32(low * POW2[k] + (a - low) / POW2[32 - k])",
"end",
"",
"function rt.i32_rotr(a, b)",
"	return rt.i32_rotl(a, 32 - b % 32)",
"end",
"",
"function rt.i32_clz(a)",
"	a = a % TWO32",
"	if a == 0 then",
"		return 32",
"	end",
"	local n = 0",
"	while a < TWO31 do",
"		a, n = a * 2, n + 1",
"	end",
"	return n",
"end",
"",
"function rt.i32_ctz(a)",
"	a = a % TWO32",
"	if a == 0 then",
"		return 32",
"	end",
"	local n = 0",
"	while a % 2 == 0 do",
"		a, n = a / 2, n + 1",
"	end",
"	return n",
"end",
"",
"function rt.i32_popcnt(a)",
"	a = a % TWO32",
"	local n = 0",
"	while a > 0 do",
"		local bit = a % 2",
"		a, n = (a - bit) / 2, n + bit",
"	end",
"	return n",
"end",
"",
"function rt.i32_extend8_s(a)",
"	a = a % 256",
"	if a >= 128 then",
"		return a - 256",
"	end",
"	return a",
"end",
"",
"function rt.i32_extend16_s(a)",
"	a = a % TWO16",
"	if a >= 32768 then",
"		return a - TWO16",
"	end",
"	return a",
"end",
""]

def i32Helpers : List String :=
  ["i32_add", "i32_sub", "i32_mul", "i32_div_s", "i32_div_u", "i32_rem_s", "i32_rem_u", "i32_and",
    "i32_or", "i32_xor", "i32_shl", "i32_shr_s", "i32_shr_u", "i32_rotl", "i32_rotr", "i32_clz",
    "i32_ctz", "i32_popcnt", "i32_extend8_s", "i32_extend16_s"]

def i32Locals : List String :=
  ["wrap32", "trunc", "AND4", "OR4", "XOR4", "bitop"]

def i32 : Chapter := ⟨i32Lines, i32Helpers, i32Locals⟩

end WasmLua.Prelude
