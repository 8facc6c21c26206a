import WasmLua.Prelude.Chapter

namespace WasmLua.Prelude

def tableLines : List String := [
"-- Tables hold function references \x7bsig, call\x7d or nil, indexed from 0.",
"",
"function rt.table(initial, maximum)",
"	if initial > maximum then",
"		error(\"wasm link: table size exceeds maximum\", 0)",
"	end",
"	return \x7b elems = \x7b\x7d, size = initial, max = maximum \x7d",
"end",
"",
"function rt.funcref(sig, call)",
"	return \x7b sig = sig, call = call \x7d",
"end",
"",
"function rt.table_get(tbl, i)",
"	i = i % TWO32",
"	if i >= tbl.size then",
"		trap(\"out of bounds table access\")",
"	end",
"	return tbl.elems[i]",
"end",
"",
"function rt.table_set(tbl, i, v)",
"	i = i % TWO32",
"	if i >= tbl.size then",
"		trap(\"out of bounds table access\")",
"	end",
"	tbl.elems[i] = v",
"end",
"",
"function rt.table_size(tbl)",
"	return wrap32(tbl.size)",
"end",
"",
"function rt.table_grow(tbl, v, delta)",
"	local old = tbl.size",
"	local new = old + delta % TWO32",
"	if new > tbl.max then",
"		return -1",
"	end",
"	if v ~= nil then",
"		for i = old, new - 1 do",
"			tbl.elems[i] = v",
"		end",
"	end",
"	tbl.size = new",
"	return wrap32(old)",
"end",
"",
"function rt.table_fill(tbl, i, v, n)",
"	i, n = i % TWO32, n % TWO32",
"	if i + n > tbl.size then",
"		trap(\"out of bounds table access\")",
"	end",
"	for j = i, i + n - 1 do",
"		tbl.elems[j] = v",
"	end",
"end",
"",
"function rt.check_table(tbl, offset, n)",
"	if offset % TWO32 + n > tbl.size then",
"		trap(\"out of bounds table access\")",
"	end",
"end",
"",
"function rt.init_table(tbl, offset, n, refs)",
"	local base = offset % TWO32 - 1",
"	for i = 1, n do",
"		tbl.elems[base + i] = refs[i]",
"	end",
"end",
"",
"-- callee returns the function stored at index i of tbl after checking bounds, initialization and",
"-- the expected signature.",
"function rt.callee(tbl, i, sig)",
"	i = i % TWO32",
"	if i >= tbl.size then",
"		trap(\"undefined element\")",
"	end",
"	local f = tbl.elems[i]",
"	if f == nil then",
"		trap(\"uninitialized element\")",
"	end",
"	if f.sig ~= sig then",
"		trap(\"indirect call type mismatch\")",
"	end",
"	return f.call",
"end"]

def tableHelpers : List String :=
  ["table", "funcref", "table_get", "table_set", "table_size", "table_grow", "table_fill",
    "check_table", "init_table", "callee"]

def tableLocals : List String :=
  []

def table : Chapter := ⟨tableLines, tableHelpers, tableLocals⟩

end WasmLua.Prelude
