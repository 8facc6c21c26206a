import Mathlib
import WasmLua.Exec.Literal
import WasmLua.Target.Quoted

/-!
Reading tables as they are written in code: entries between braces, separated by commas or
semicolons, each with a name and an equals sign in front or without; strings in double quotes, with
escapes; words, of which `true`, `false` and `nil` stand for themselves and others for variables.
-/

namespace WasmLua.Exec.Reader

open Target.Quoted List

inductive Token where
  | opening
  | closing
  | comma
  | equals
  | word (chars : List Char)
  | string (value : Bytes)
deriving DecidableEq

inductive Place where
  | between
  | word (chars : List Char)
  | string (value : Bytes)
  | escape (value : Bytes)
  | code (value : Bytes) (number digits : Nat)
deriving DecidableEq

structure Lexing where
  place : Place
  tokens : List Token
deriving DecidableEq

def isWordChar (char : Char) : Bool := char.isAlphanum || char == '_'

def begin? (tokens : List Token) (char : Char) : Option Lexing :=
  if char = ' ' ∨ char = '\t' ∨ char = '\n' ∨ char = '\r' then some ⟨.between, tokens⟩
  else if char = '\x7b' then some ⟨.between, .opening :: tokens⟩
  else if char = '\x7d' then some ⟨.between, .closing :: tokens⟩
  else if char = ',' ∨ char = ';' then some ⟨.between, .comma :: tokens⟩
  else if char = '=' then some ⟨.between, .equals :: tokens⟩
  else if char = '"' then some ⟨.string [], tokens⟩
  else if isWordChar char ∧ ¬ char.isDigit then some ⟨.word [char], tokens⟩
  else none

def quoted? (tokens : List Token) (value : Bytes) (char : Char) : Option Lexing :=
  if char = '"' then some ⟨.between, .string value.reverse :: tokens⟩
  else if char = '\\' then some ⟨.escape value, tokens⟩
  else if char = '\n' then none
  else some ⟨.string ((String.utf8EncodeChar char).reverse ++ value), tokens⟩

def unescape (char : Char) : Char :=
  match char with
  | 'a' => '\x07'
  | 'b' => '\x08'
  | 'f' => '\x0c'
  | 'n' => '\n'
  | 'r' => '\r'
  | 't' => '\t'
  | 'v' => '\x0b'
  | char => char

def coded? (value : Bytes) (number : Nat) : Option Bytes :=
  if number < 256 then some (UInt8.ofNat number :: value) else none

def digitValue (char : Char) : Nat := char.toNat - '0'.toNat

def step (lexing : Lexing) (char : Char) : Option Lexing :=
  match lexing.place with
  | .between => begin? lexing.tokens char
  | .word chars =>
    if isWordChar char then some ⟨.word (char :: chars), lexing.tokens⟩
    else begin? (.word chars.reverse :: lexing.tokens) char
  | .string value => quoted? lexing.tokens value char
  | .escape value =>
    if char.isDigit then some ⟨.code value (digitValue char) 1, lexing.tokens⟩
    else some ⟨.string ((String.utf8EncodeChar (unescape char)).reverse ++ value), lexing.tokens⟩
  | .code value number digits =>
    if char.isDigit then
      if digits < 2 then some ⟨.code value (number * 10 + digitValue char) (digits + 1), lexing.tokens⟩
      else do return ⟨.string (← coded? value (number * 10 + digitValue char)), lexing.tokens⟩
    else do quoted? lexing.tokens (← coded? value number) char

def tokens? (chars : List Char) : Option (List Token) := do
  let lexing ← chars.foldlM step ⟨.between, []⟩
  match lexing.place with
  | .between => some lexing.tokens.reverse
  | .word chars => some (Token.word chars.reverse :: lexing.tokens).reverse
  | _ => none

structure Open where
  key : Option Bytes
  entries : List (Option Bytes × Literal)

def Open.empty : Open := ⟨none, []⟩

def Open.give (table : Open) (value : Literal) : Open := ⟨none, (table.key, value) :: table.entries⟩

def Open.named (table : Open) (name : List Char) : Open :=
  { table with key := some (Bytes.ofString (String.ofList name)) }

def entriesOf : List (Option Bytes × Literal) → Entries
  | [] => .none
  | (key, value) :: rest => .entry key value (entriesOf rest)

def Open.literal (table : Open) : Literal := .table (entriesOf table.entries.reverse)

inductive Phase where
  | entry
  | named (word : List Char)
  | value
  | after

inductive Parsing where
  | start
  | reading (phase : Phase) (table : Open) (outer : List Open)
  | done (value : Literal)

def wordValue (meaning : List Char → Literal) (word : List Char) : Literal :=
  if word = "true".toList then .bool true
  else if word = "false".toList then .bool false
  else if word = "nil".toList then .null
  else meaning word

def close (table : Open) : List Open → Parsing
  | [] => .done table.literal
  | outer :: rest => .reading .after (outer.give table.literal) rest

def take? (meaning : List Char → Literal) : Parsing → Token → Option Parsing
  | .start, .opening => some (.reading .entry .empty [])
  | .reading .entry table outer, .closing => some (close table outer)
  | .reading .entry table outer, .opening => some (.reading .entry .empty (table :: outer))
  | .reading .entry table outer, .string value => some (.reading .after (table.give (.text value)) outer)
  | .reading .entry table outer, .word name => some (.reading (.named name) table outer)
  | .reading (.named name) table outer, .equals => some (.reading .value (table.named name) outer)
  | .reading (.named name) table outer, .comma =>
    some (.reading .entry (table.give (wordValue meaning name)) outer)
  | .reading (.named name) table outer, .closing =>
    some (close (table.give (wordValue meaning name)) outer)
  | .reading .value table outer, .opening => some (.reading .entry .empty (table :: outer))
  | .reading .value table outer, .string value => some (.reading .after (table.give (.text value)) outer)
  | .reading .value table outer, .word name =>
    some (.reading .after (table.give (wordValue meaning name)) outer)
  | .reading .after table outer, .comma => some (.reading .entry table outer)
  | .reading .after table outer, .closing => some (close table outer)
  | _, _ => none

def read? (meaning : List Char → Literal) (text : String) : Option Literal := do
  let tokens ← tokens? text.toList
  match ← tokens.foldlM (take? meaning) .start with
  | .done value => some value
  | _ => none

lemma digit_value {value : Nat} : (digit value).isDigit = true ∧ digitValue (digit value) = value % 10 := by
  have table : ∀ low : Fin 10, (Char.ofNat (48 + low.val)).isDigit = true ∧
      digitValue (Char.ofNat (48 + low.val)) = low.val := by decide
  exact table ⟨value % 10, Nat.mod_lt _ (by decide)⟩

variable {byte : UInt8}

lemma plain_byte (low : 0x20 ≤ byte) (high : byte < 0x7f) (quote : byte ≠ 0x22) (slash : byte ≠ 0x5c) :
    Char.ofNat byte.toNat ≠ '"' ∧ Char.ofNat byte.toNat ≠ '\\' ∧ Char.ofNat byte.toNat ≠ '\n' ∧
      String.utf8EncodeChar (Char.ofNat byte.toNat) = [byte] := by
  have table : ∀ code : Fin 256, 0x20 ≤ code.val → code.val < 0x7f → code.val ≠ 0x22 →
      code.val ≠ 0x5c → Char.ofNat code.val ≠ '"' ∧ Char.ofNat code.val ≠ '\\' ∧ Char.ofNat code.val ≠ '\n' ∧
        String.utf8EncodeChar (Char.ofNat code.val) = [UInt8.ofNat code.val] := by decide +kernel
  have entry := table ⟨byte.toNat, byte.toNat_lt⟩ low high
    (fun same => quote (UInt8.toNat_inj.mp same)) (fun same => slash (UInt8.toNat_inj.mp same))
  rwa [UInt8.ofNat_toNat] at entry

lemma byte_read {value : Bytes} {tokens : List Token} : (Target.Quoted.byte byte).foldlM step ⟨.string value, tokens⟩
      = some ⟨.string (byte :: value), tokens⟩ := by
  rw [Target.Quoted.byte]
  split
  · rename_i escaped
    rcases (by simpa using escaped : byte = 0x22 ∨ byte = 0x5c) with rfl | rfl <;> rfl
  · rename_i unescaped
    obtain ⟨quote, slash⟩ : byte ≠ 0x22 ∧ byte ≠ 0x5c := by simpa using unescaped
    split
    · rename_i printable
      obtain ⟨low, high⟩ : 0x20 ≤ byte ∧ byte < 0x7f := by simpa using printable
      obtain ⟨noQuote, noSlash, noBreak, bytes⟩ := plain_byte low high quote slash
      simp [step, quoted?, noQuote, noSlash, noBreak, bytes]
    · -- Three digits, the last of which completes the code.
      have below : byte.toNat < 256 := byte.toNat_lt
      have number : (byte.toNat / 100 % 10 * 10 + byte.toNat / 10 % 10) * 10 + byte.toNat % 10 = byte.toNat := by omega
      have first : step ⟨.string value, tokens⟩ '\\' = some ⟨.escape value, tokens⟩ := rfl
      have second : step ⟨.escape value, tokens⟩ (digit (byte.toNat / 100))
          = some ⟨.code value (byte.toNat / 100 % 10) 1, tokens⟩ := by
        simp only [step, digit_value, if_true]
      have third : step ⟨.code value (byte.toNat / 100 % 10) 1, tokens⟩ (digit (byte.toNat / 10))
          = some ⟨.code value (byte.toNat / 100 % 10 * 10 + byte.toNat / 10 % 10) 2, tokens⟩ := by
        simp only [step, digit_value, if_true]
        rfl
      have last : step ⟨.code value (byte.toNat / 100 % 10 * 10 + byte.toNat / 10 % 10) 2, tokens⟩
            (digit byte.toNat) = some ⟨.string (byte :: value), tokens⟩ := by
        simp only [step, digit_value, if_true, number, coded?, if_pos below, UInt8.ofNat_toNat]
        rfl
      simp only [foldlM_cons, first, second, third, last, foldlM_nil, Option.bind_eq_bind, Option.bind_some, Option.pure_def]

lemma quoted_read (value : Bytes) (tokens : List Token) : (text value).toList.foldlM step ⟨.between, tokens⟩
      = some ⟨.between, .string value :: tokens⟩ := by
  have inner (read rest : Bytes) : (rest.flatMap Target.Quoted.byte).foldlM step ⟨.string read, tokens⟩
      = some ⟨.string (rest.reverse ++ read), tokens⟩ := by
    induction rest generalizing read with
    | nil => rfl
    | cons byte rest ih =>
      rw [flatMap_cons, foldlM_append, byte_read]
      simp only [Option.bind_eq_bind, Option.bind_some, ih, reverse_cons, append_assoc, singleton_append]
  rw [text, String.toList_ofList, chars, cons_append, foldlM_cons]
  change (value.flatMap Target.Quoted.byte ++ ['"']).foldlM step ⟨.string [], tokens⟩ = _
  rw [foldlM_append, inner]
  simp [step, quoted?]

end WasmLua.Exec.Reader
