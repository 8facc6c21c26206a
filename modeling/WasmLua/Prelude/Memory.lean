import WasmLua.Prelude.Chapter

namespace WasmLua.Prelude

def memoryLines : List String := [
"-- Linear memory: a table of bytes indexed from 0 (nil reads as zero) and a size in pages.",
"",
"function rt.memory(initial, maximum)",
"	if initial > maximum then",
"		error(\"wasm link: memory size exceeds maximum\", 0)",
"	end",
"	return \x7b data = \x7b\x7d, pages = initial, size = initial * 65536, max = maximum \x7d",
"end",
"",
"local function ea(mem, addr, offset, width)",
"	local a = addr % TWO32 + offset",
"	if a + width > mem.size then",
"		trap(\"out of bounds memory access\")",
"	end",
"	return a",
"end",
"",
"local function rd32(d, a)",
"	return (d[a] or 0) + (d[a + 1] or 0) * 256 + (d[a + 2] or 0) * 65536 + (d[a + 3] or 0) * 16777216",
"end",
"",
"local function wr32(d, a, v)",
"	local b0 = v % 256",
"	v = (v - b0) / 256",
"	local b1 = v % 256",
"	v = (v - b1) / 256",
"	local b2 = v % 256",
"	d[a], d[a + 1], d[a + 2], d[a + 3] = b0, b1, b2, (v - b2) / 256",
"end",
"",
"function rt.load8_u(mem, addr, offset)",
"	return mem.data[ea(mem, addr, offset, 1)] or 0",
"end",
"",
"function rt.load8_s(mem, addr, offset)",
"	local v = mem.data[ea(mem, addr, offset, 1)] or 0",
"	if v >= 128 then",
"		return v - 256",
"	end",
"	return v",
"end",
"",
"function rt.load16_u(mem, addr, offset)",
"	local a, d = ea(mem, addr, offset, 2), mem.data",
"	return (d[a] or 0) + (d[a + 1] or 0) * 256",
"end",
"",
"function rt.load16_s(mem, addr, offset)",
"	local v = rt.load16_u(mem, addr, offset)",
"	if v >= 32768 then",
"		return v - TWO16",
"	end",
"	return v",
"end",
"",
"function rt.i32_load(mem, addr, offset)",
"	return wrap32(rd32(mem.data, ea(mem, addr, offset, 4)))",
"end",
"",
"function rt.i64_load(mem, addr, offset)",
"	local a, d = ea(mem, addr, offset, 8), mem.data",
"	return \x7b rd32(d, a), rd32(d, a + 4) \x7d",
"end",
"",
"function rt.i64_load8_s(mem, addr, offset)",
"	return rt.i64_extend_i32_s(rt.load8_s(mem, addr, offset))",
"end",
"",
"function rt.i64_load8_u(mem, addr, offset)",
"	return \x7b rt.load8_u(mem, addr, offset), 0 \x7d",
"end",
"",
"function rt.i64_load16_s(mem, addr, offset)",
"	return rt.i64_extend_i32_s(rt.load16_s(mem, addr, offset))",
"end",
"",
"function rt.i64_load16_u(mem, addr, offset)",
"	return \x7b rt.load16_u(mem, addr, offset), 0 \x7d",
"end",
"",
"function rt.i64_load32_s(mem, addr, offset)",
"	return rt.i64_extend_i32_s(rt.i32_load(mem, addr, offset))",
"end",
"",
"function rt.i64_load32_u(mem, addr, offset)",
"	return \x7b rd32(mem.data, ea(mem, addr, offset, 4)), 0 \x7d",
"end",
"",
"function rt.f32_load(mem, addr, offset)",
"	return rt.f32_reinterpret_i32(rd32(mem.data, ea(mem, addr, offset, 4)))",
"end",
"",
"function rt.f64_load(mem, addr, offset)",
"	return rt.f64_reinterpret_i64(rt.i64_load(mem, addr, offset))",
"end",
"",
"function rt.store8(mem, addr, offset, v)",
"	mem.data[ea(mem, addr, offset, 1)] = v % 256",
"end",
"",
"function rt.store16(mem, addr, offset, v)",
"	local a, d = ea(mem, addr, offset, 2), mem.data",
"	v = v % TWO16",
"	local b0 = v % 256",
"	d[a], d[a + 1] = b0, (v - b0) / 256",
"end",
"",
"function rt.i32_store(mem, addr, offset, v)",
"	wr32(mem.data, ea(mem, addr, offset, 4), v % TWO32)",
"end",
"",
"function rt.i64_store(mem, addr, offset, v)",
"	local a, d = ea(mem, addr, offset, 8), mem.data",
"	wr32(d, a, v[1])",
"	wr32(d, a + 4, v[2])",
"end",
"",
"function rt.i64_store8(mem, addr, offset, v)",
"	rt.store8(mem, addr, offset, v[1])",
"end",
"",
"function rt.i64_store16(mem, addr, offset, v)",
"	rt.store16(mem, addr, offset, v[1])",
"end",
"",
"function rt.i64_store32(mem, addr, offset, v)",
"	rt.i32_store(mem, addr, offset, v[1])",
"end",
"",
"function rt.f32_store(mem, addr, offset, v)",
"	rt.i32_store(mem, addr, offset, rt.i32_reinterpret_f32(v))",
"end",
"",
"function rt.f64_store(mem, addr, offset, v)",
"	rt.i64_store(mem, addr, offset, rt.i64_reinterpret_f64(v))",
"end",
"",
"-- memory_grow returns the previous size in pages, or -1 if the memory cannot grow. Pages past the",
"-- old size have never been written, so they read as zero.",
"function rt.memory_grow(mem, delta)",
"	local old = mem.pages",
"	local new = old + delta % TWO32",
"	if new > mem.max then",
"		return -1",
"	end",
"	mem.pages, mem.size = new, new * 65536",
"	return old",
"end",
"",
"function rt.memory_fill(mem, dst, v, n)",
"	dst, n = dst % TWO32, n % TWO32",
"	if dst + n > mem.size then",
"		trap(\"out of bounds memory access\")",
"	end",
"	local d, b = mem.data, v % 256",
"	for i = dst, dst + n - 1 do",
"		d[i] = b",
"	end",
"end",
"",
"function rt.memory_copy(dmem, smem, dst, src, n)",
"	dst, src, n = dst % TWO32, src % TWO32, n % TWO32",
"	if src + n > smem.size or dst + n > dmem.size then",
"		trap(\"out of bounds memory access\")",
"	end",
"	local dd, sd = dmem.data, smem.data",
"	if dst <= src then",
"		for i = 0, n - 1 do",
"			dd[dst + i] = sd[src + i]",
"		end",
"	else",
"		for i = n - 1, 0, -1 do",
"			dd[dst + i] = sd[src + i]",
"		end",
"	end",
"end",
"",
"function rt.check_memory(mem, offset, n)",
"	if offset % TWO32 + n > mem.size then",
"		trap(\"out of bounds memory access\")",
"	end",
"end",
"",
"function rt.init_memory(mem, offset, s)",
"	local d, base = mem.data, offset % TWO32 - 1",
"	for i = 1, #s do",
"		d[base + i] = sbyte(s, i)",
"	end",
"end",
""]

def memoryHelpers : List String :=
  ["memory", "load8_u", "load8_s", "load16_u", "load16_s", "i32_load", "i64_load", "i64_load8_s",
    "i64_load8_u", "i64_load16_s", "i64_load16_u", "i64_load32_s", "i64_load32_u", "f32_load",
    "f64_load", "store8", "store16", "i32_store", "i64_store", "i64_store8", "i64_store16",
    "i64_store32", "f32_store", "f64_store", "memory_grow", "memory_fill", "memory_copy",
    "check_memory", "init_memory"]

def memoryLocals : List String :=
  ["ea", "rd32", "wr32"]

def memory : Chapter := ⟨memoryLines, memoryHelpers, memoryLocals⟩

end WasmLua.Prelude
