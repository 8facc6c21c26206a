import WasmLua.Prelude.Chapter

namespace WasmLua.Prelude

def i64Lines : List String := [
"-- i64 values are immutable tables \x7blo, hi\x7d of unsigned 32-bit halves.",
"",
"local function i64(lo, hi)",
"	return \x7b lo, hi \x7d",
"end",
"rt.i64 = i64",
"",
"local I64_ZERO = i64(0, 0)",
"rt.i64_zero = I64_ZERO",
"",
"function rt.i64_add(a, b)",
"	local lo, hi = a[1] + b[1], a[2] + b[2]",
"	if lo >= TWO32 then",
"		lo, hi = lo - TWO32, hi + 1",
"	end",
"	return \x7b lo, hi % TWO32 \x7d",
"end",
"",
"function rt.i64_sub(a, b)",
"	local lo, hi = a[1] - b[1], a[2] - b[2]",
"	if lo < 0 then",
"		lo, hi = lo + TWO32, hi - 1",
"	end",
"	return \x7b lo, hi % TWO32 + 0 \x7d",
"end",
"",
"local function limbs(x)",
"	local l = x % TWO16",
"	return l, (x - l) / TWO16",
"end",
"",
"function rt.i64_mul(a, b)",
"	local a0, a1 = limbs(a[1])",
"	local a2, a3 = limbs(a[2])",
"	local b0, b1 = limbs(b[1])",
"	local b2, b3 = limbs(b[2])",
"",
"	local c0 = a0 * b0",
"	local c1 = a0 * b1 + a1 * b0",
"	local c2 = a0 * b2 + a1 * b1 + a2 * b0",
"	local c3 = a0 * b3 + a1 * b2 + a2 * b1 + a3 * b0",
"",
"	local r0 = c0 % TWO16",
"	c1 = c1 + (c0 - r0) / TWO16",
"	local r1 = c1 % TWO16",
"	c2 = c2 + (c1 - r1) / TWO16",
"	local r2 = c2 % TWO16",
"	local r3 = (c3 + (c2 - r2) / TWO16) % TWO16",
"	return \x7b r0 + r1 * TWO16, r2 + r3 * TWO16 \x7d",
"end",
"",
"local function neg64(a)",
"	return rt.i64_sub(I64_ZERO, a)",
"end",
"",
"local function isneg64(a)",
"	return a[2] >= TWO31",
"end",
"",
"local function iszero64(a)",
"	return a[1] == 0 and a[2] == 0",
"end",
"",
"local function ult64(a, b)",
"	return a[2] < b[2] or (a[2] == b[2] and a[1] < b[1])",
"end",
"",
"local function slt64(a, b)",
"	local ah, bh = a[2], b[2]",
"	if ah >= TWO31 then",
"		ah = ah - TWO32",
"	end",
"	if bh >= TWO31 then",
"		bh = bh - TWO32",
"	end",
"	return ah < bh or (ah == bh and a[1] < b[1])",
"end",
"",
"local function split53(x)",
"	local hi = floor(x / TWO32)",
"	return \x7b x - hi * TWO32, hi \x7d",
"end",
"",
"-- udivmod64 returns the unsigned quotient and remainder of a and b. b must be non-zero.",
"local function udivmod64(a, b)",
"	local al, ah, bl, bh = a[1], a[2], b[1], b[2]",
"	if ah < 1048576 and bh < 1048576 then",
"		local x, y = ah * TWO32 + al, bh * TWO32 + bl",
"		local q = floor(x / y)",
"		local r = x - q * y",
"		if r < 0 then",
"			q, r = q - 1, r + y",
"		elseif r >= y then",
"			q, r = q + 1, r - y",
"		end",
"		return split53(q), split53(r)",
"	end",
"",
"	local ql, qh, rl, rh = 0, 0, 0, 0",
"	for i = 63, 0, -1 do",
"		local bit",
"		if i >= 32 then",
"			bit = floor(ah / POW2[i - 32]) % 2",
"		else",
"			bit = floor(al / POW2[i]) % 2",
"		end",
"		local over = rh >= TWO31",
"		rh = (rh * 2) % TWO32 + floor(rl / TWO31)",
"		rl = (rl * 2) % TWO32 + bit",
"		if over or rh > bh or (rh == bh and rl >= bl) then",
"			rl, rh = rl - bl, rh - bh",
"			if rl < 0 then",
"				rl, rh = rl + TWO32, rh - 1",
"			end",
"			rh = rh % TWO32",
"			if i >= 32 then",
"				qh = qh + POW2[i - 32]",
"			else",
"				ql = ql + POW2[i]",
"			end",
"		end",
"	end",
"	return \x7b ql, qh \x7d, \x7b rl, rh \x7d",
"end",
"",
"function rt.i64_div_u(a, b)",
"	if iszero64(b) then",
"		trap(\"integer divide by zero\")",
"	end",
"	local q = udivmod64(a, b)",
"	return q",
"end",
"",
"function rt.i64_rem_u(a, b)",
"	if iszero64(b) then",
"		trap(\"integer divide by zero\")",
"	end",
"	local _, r = udivmod64(a, b)",
"	return r",
"end",
"",
"function rt.i64_div_s(a, b)",
"	if iszero64(b) then",
"		trap(\"integer divide by zero\")",
"	end",
"	if a[1] == 0 and a[2] == TWO31 and b[1] == TWO32 - 1 and b[2] == TWO32 - 1 then",
"		trap(\"integer overflow\")",
"	end",
"	local na, nb = isneg64(a), isneg64(b)",
"	if na then",
"		a = neg64(a)",
"	end",
"	if nb then",
"		b = neg64(b)",
"	end",
"	local q = udivmod64(a, b)",
"	if na ~= nb then",
"		q = neg64(q)",
"	end",
"	return q",
"end",
"",
"function rt.i64_rem_s(a, b)",
"	if iszero64(b) then",
"		trap(\"integer divide by zero\")",
"	end",
"	local na = isneg64(a)",
"	if na then",
"		a = neg64(a)",
"	end",
"	if isneg64(b) then",
"		b = neg64(b)",
"	end",
"	local _, r = udivmod64(a, b)",
"	if na then",
"		r = neg64(r)",
"	end",
"	return r",
"end",
"",
"function rt.i64_and(a, b)",
"	return \x7b bitop(AND4, a[1], b[1]), bitop(AND4, a[2], b[2]) \x7d",
"end",
"",
"function rt.i64_or(a, b)",
"	return \x7b bitop(OR4, a[1], b[1]), bitop(OR4, a[2], b[2]) \x7d",
"end",
"",
"function rt.i64_xor(a, b)",
"	return \x7b bitop(XOR4, a[1], b[1]), bitop(XOR4, a[2], b[2]) \x7d",
"end",
"",
"local function shl64(a, k)",
"	if k == 0 then",
"		return a",
"	end",
"	local lo, hi = a[1], a[2]",
"	if k >= 32 then",
"		return \x7b 0, (lo % POW2[64 - k]) * POW2[k - 32] \x7d",
"	end",
"	local kept = lo % POW2[32 - k]",
"	local carry = (lo - kept) / POW2[32 - k]",
"	return \x7b kept * POW2[k], (hi % POW2[32 - k]) * POW2[k] + carry \x7d",
"end",
"",
"local function shru64(a, k)",
"	if k == 0 then",
"		return a",
"	end",
"	local lo, hi = a[1], a[2]",
"	if k >= 32 then",
"		return \x7b floor(hi / POW2[k - 32]), 0 \x7d",
"	end",
"	local moved = hi % POW2[k]",
"	return \x7b floor(lo / POW2[k]) + moved * POW2[32 - k], (hi - moved) / POW2[k] \x7d",
"end",
"",
"function rt.i64_shl(a, b)",
"	return shl64(a, b[1] % 64)",
"end",
"",
"function rt.i64_shr_u(a, b)",
"	return shru64(a, b[1] % 64)",
"end",
"",
"function rt.i64_shr_s(a, b)",
"	local k = b[1] % 64",
"	if k == 0 then",
"		return a",
"	end",
"	local lo, hi = a[1], a[2]",
"	local shi = hi",
"	if shi >= TWO31 then",
"		shi = shi - TWO32",
"	end",
"	if k >= 32 then",
"		local fill = 0",
"		if shi < 0 then",
"			fill = TWO32 - 1",
"		end",
"		return \x7b floor(shi / POW2[k - 32]) % TWO32, fill \x7d",
"	end",
"	local moved = hi % POW2[k]",
"	return \x7b floor(lo / POW2[k]) + moved * POW2[32 - k], floor(shi / POW2[k]) % TWO32 \x7d",
"end",
"",
"function rt.i64_rotl(a, b)",
"	local k = b[1] % 64",
"	if k == 0 then",
"		return a",
"	end",
"	local l, r = shl64(a, k), shru64(a, 64 - k)",
"	return \x7b l[1] + r[1], l[2] + r[2] \x7d",
"end",
"",
"function rt.i64_rotr(a, b)",
"	local k = b[1] % 64",
"	if k == 0 then",
"		return a",
"	end",
"	local l, r = shl64(a, 64 - k), shru64(a, k)",
"	return \x7b l[1] + r[1], l[2] + r[2] \x7d",
"end",
"",
"function rt.i64_clz(a)",
"	if a[2] ~= 0 then",
"		return \x7b rt.i32_clz(a[2]), 0 \x7d",
"	end",
"	return \x7b 32 + rt.i32_clz(a[1]), 0 \x7d",
"end",
"",
"function rt.i64_ctz(a)",
"	if a[1] ~= 0 then",
"		return \x7b rt.i32_ctz(a[1]), 0 \x7d",
"	end",
"	return \x7b 32 + rt.i32_ctz(a[2]), 0 \x7d",
"end",
"",
"function rt.i64_popcnt(a)",
"	return \x7b rt.i32_popcnt(a[1]) + rt.i32_popcnt(a[2]), 0 \x7d",
"end",
"",
"function rt.i64_eqz(a)",
"	if iszero64(a) then",
"		return 1",
"	end",
"	return 0",
"end",
"",
"function rt.i64_eq(a, b)",
"	if a[1] == b[1] and a[2] == b[2] then",
"		return 1",
"	end",
"	return 0",
"end",
"",
"function rt.i64_ne(a, b)",
"	if a[1] == b[1] and a[2] == b[2] then",
"		return 0",
"	end",
"	return 1",
"end",
"",
"function rt.i64_lt_s(a, b)",
"	if slt64(a, b) then",
"		return 1",
"	end",
"	return 0",
"end",
"",
"function rt.i64_lt_u(a, b)",
"	if ult64(a, b) then",
"		return 1",
"	end",
"	return 0",
"end",
"",
"function rt.i64_gt_s(a, b)",
"	if slt64(b, a) then",
"		return 1",
"	end",
"	return 0",
"end",
"",
"function rt.i64_gt_u(a, b)",
"	if ult64(b, a) then",
"		return 1",
"	end",
"	return 0",
"end",
"",
"function rt.i64_le_s(a, b)",
"	if slt64(b, a) then",
"		return 0",
"	end",
"	return 1",
"end",
"",
"function rt.i64_le_u(a, b)",
"	if ult64(b, a) then",
"		return 0",
"	end",
"	return 1",
"end",
"",
"function rt.i64_ge_s(a, b)",
"	if slt64(a, b) then",
"		return 0",
"	end",
"	return 1",
"end",
"",
"function rt.i64_ge_u(a, b)",
"	if ult64(a, b) then",
"		return 0",
"	end",
"	return 1",
"end",
"",
"function rt.i64_extend_i32_s(x)",
"	if x < 0 then",
"		return \x7b x + TWO32, TWO32 - 1 \x7d",
"	end",
"	return \x7b x + 0, 0 \x7d",
"end",
"",
"function rt.i64_extend_i32_u(x)",
"	return \x7b x % TWO32, 0 \x7d",
"end",
"",
"function rt.i32_wrap_i64(a)",
"	return wrap32(a[1])",
"end",
"",
"function rt.i64_extend8_s(a)",
"	return rt.i64_extend_i32_s(rt.i32_extend8_s(a[1]))",
"end",
"",
"function rt.i64_extend16_s(a)",
"	return rt.i64_extend_i32_s(rt.i32_extend16_s(a[1]))",
"end",
"",
"function rt.i64_extend32_s(a)",
"	return rt.i64_extend_i32_s(wrap32(a[1]))",
"end",
""]

def i64Helpers : List String :=
  ["i64", "i64_zero", "i64_add", "i64_sub", "i64_mul", "i64_div_u", "i64_rem_u", "i64_div_s",
    "i64_rem_s", "i64_and", "i64_or", "i64_xor", "i64_shl", "i64_shr_u", "i64_shr_s", "i64_rotl",
    "i64_rotr", "i64_clz", "i64_ctz", "i64_popcnt", "i64_eqz", "i64_eq", "i64_ne", "i64_lt_s",
    "i64_lt_u", "i64_gt_s", "i64_gt_u", "i64_le_s", "i64_le_u", "i64_ge_s", "i64_ge_u",
    "i64_extend_i32_s", "i64_extend_i32_u", "i32_wrap_i64", "i64_extend8_s", "i64_extend16_s",
    "i64_extend32_s"]

def i64Locals : List String :=
  ["i64", "I64_ZERO", "limbs", "neg64", "isneg64", "iszero64", "ult64", "slt64", "split53",
    "udivmod64", "shl64", "shru64"]

def i64 : Chapter := ⟨i64Lines, i64Helpers, i64Locals⟩

end WasmLua.Prelude
