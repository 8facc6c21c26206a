import WasmLua.Prelude.Chapter

namespace WasmLua.Prelude

def linkingLines : List String := [
"local rt = \x7b\x7d",
"",
"local floor, ceil, abs, sqrt, fmod = math.floor, math.ceil, math.abs, math.sqrt, math.fmod",
"local frexp, ldexp = math.frexp, math.ldexp",
"local sbyte, error, tonumber = string.byte, error, tonumber",
"",
"local TWO16 = 65536",
"local TWO31 = 2147483648",
"local TWO32 = 4294967296",
"local POW2 = \x7b\x7d",
"do",
"	local v = 1",
"	for i = 0, 64 do",
"		POW2[i] = v",
"		v = v * 2",
"	end",
"end",
"local TWO52 = POW2[52]",
"local TWO63 = POW2[63]",
"local TWO64 = POW2[64]",
"local TWO128 = POW2[64] * POW2[64]",
"-- math.huge is the largest finite double in this runtime, not infinity.",
"local huge = 1 / 0",
"local NAN = 0 / 0",
"",
"-- The VM stores every zero produced by an arithmetic instruction as +0. Values returned by",
"-- library functions and values copied between variables keep their sign, so -0 is parsed once",
"-- here and zero results that must be negative are rebuilt from it.",
"local NEG_ZERO = tonumber(\"-0.0\")",
"",
"rt.inf = huge",
"rt.nan = NAN",
"rt.neg_zero = NEG_ZERO",
"",
"function rt.trap(kind)",
"	error(\"wasm trap: \" .. kind, 0)",
"end",
"local trap = rt.trap",
"",
"local function link(module, field, msg)",
"	error(\"wasm link: \" .. msg .. \" \" .. module .. \".\" .. field, 0)",
"end",
"",
"local function import(imports, module, field, kind)",
"	local m = imports and imports[module]",
"	local v = m and m[field]",
"	if v == nil then",
"		link(module, field, \"unknown import (\" .. kind .. \")\")",
"	end",
"	return v",
"end",
"",
"function rt.import_func(imports, module, field)",
"	local f = import(imports, module, field, \"func\")",
"	if type(f) ~= \"function\" then",
"		link(module, field, \"incompatible import type\")",
"	end",
"	return f",
"end",
"",
"function rt.import_global(imports, module, field)",
"	local g = import(imports, module, field, \"global\")",
"	if type(g) ~= \"table\" then",
"		link(module, field, \"incompatible import type\")",
"	end",
"	return g",
"end",
"",
"function rt.import_memory(imports, module, field, initial, maximum)",
"	local mem = import(imports, module, field, \"memory\")",
"	if type(mem) ~= \"table\" or mem.data == nil or mem.pages < initial or (maximum ~= nil and mem.max > maximum) then",
"		link(module, field, \"incompatible import type\")",
"	end",
"	return mem",
"end",
"",
"function rt.import_table(imports, module, field, initial, maximum)",
"	local tbl = import(imports, module, field, \"table\")",
"	if type(tbl) ~= \"table\" or tbl.elems == nil or tbl.size < initial or (maximum ~= nil and tbl.max > maximum) then",
"		link(module, field, \"incompatible import type\")",
"	end",
"	return tbl",
"end",
""]

def linkingHelpers : List String :=
  ["inf", "nan", "neg_zero", "trap", "import_func", "import_global", "import_memory",
    "import_table"]

def linkingLocals : List String :=
  ["rt", "floor", "ceil", "abs", "sqrt", "fmod", "frexp", "ldexp", "sbyte", "error", "tonumber",
    "TWO16", "TWO31", "TWO32", "POW2", "TWO52", "TWO63", "TWO64", "TWO128", "huge", "NAN",
    "NEG_ZERO", "trap", "link", "import"]

def linking : Chapter := ⟨linkingLines, linkingHelpers, linkingLocals⟩

end WasmLua.Prelude
