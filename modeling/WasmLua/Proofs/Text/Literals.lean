import WasmLua.Proofs.Text.Strings
import WasmLua.Target.Quoted

/-!
Reading string literals back. A literal stands between two equal quotes; a backslash brings a
control byte, a line break, up to three decimal digits or the byte after it.
-/

namespace WasmLua.Target.Quoted

open UInt8 List

/-- Where the reader stands: `code` has the digits read so far, `broken` the first byte of a line break. -/
inductive Place where
  | inside
  | escape
  | code (number digits : Nat)
  | broken (first : UInt8)
  | closed
deriving DecidableEq

def isBreak (byte : UInt8) : Bool := byte == 0x0a || byte == 0x0d

def isDigit (byte : UInt8) : Bool := 0x30 ≤ byte && byte ≤ 0x39

def digitValue (byte : UInt8) : Nat := byte.toNat - 0x30

def escaped (byte : UInt8) : UInt8 :=
  if byte == 0x61 then 0x07
  else if byte == 0x62 then 0x08
  else if byte == 0x66 then 0x0c
  else if byte == 0x6e then 0x0a
  else if byte == 0x72 then 0x0d
  else if byte == 0x74 then 0x09
  else if byte == 0x76 then 0x0b
  else byte

def plain? (delimiter : UInt8) (value : Bytes) (byte : UInt8) : Option (Place × Bytes) :=
  if byte == delimiter then some (.closed, value)
  else if isBreak byte then none
  else if byte == 0x5c then some (.escape, value)
  else some (.inside, byte :: value)

def step? (delimiter : UInt8) (place : Place) (value : Bytes) (byte : UInt8) : Option (Place × Bytes) :=
  match place with
  | .inside => plain? delimiter value byte
  | .escape =>
    if isDigit byte then some (.code (digitValue byte) 1, value)
    else if isBreak byte then some (.broken byte, 0x0a :: value)
    else some (.inside, escaped byte :: value)
  | .code number digits =>
    if digits < 3 && isDigit byte then some (.code (10 * number + digitValue byte) (digits + 1), value)
    else if number < 256 then plain? delimiter (ofNat number :: value) byte
    else none
  | .broken first =>
    -- The two bytes of a line break, in either order, are one.
    if isBreak byte && byte != first then some (.inside, value) else plain? delimiter value byte
  | .closed => none

def readFrom (delimiter : UInt8) : Place → Bytes → Bytes → Option (Bytes × Bytes)
  | .closed, value, rest => some (value.reverse, rest)
  | _, _, [] => none
  | place, value, byte :: rest => do
    let (next, value) ← step? delimiter place value byte
    readFrom delimiter next value rest

def read? : Bytes → Option (Bytes × Bytes)
  | [] => none
  | byte :: rest => if byte == 0x22 || byte == 0x27 then readFrom byte .inside [] rest else none

/-- How many bytes stand before the first double quote that no backslash escapes; the flag says whether the
byte before is such a backslash. -/
def beforeQuote : Bool → Bytes → Option Nat
  | _, [] => none
  | true, _ :: rest => (beforeQuote false rest).map (· + 1)
  | false, byte :: rest =>
    if byte == 0x22 then some 0 else (beforeQuote (byte == 0x5c) rest).map (· + 1)

def bytes (value : UInt8) : Bytes := (byte value).flatMap String.utf8EncodeChar

def literal (value : Bytes) : Bytes := Bytes.ofString (text value)

lemma literal_bytes (value : Bytes) : literal value = 0x22 :: (value.flatMap bytes ++ [0x22]) := by
  have inner : (value.flatMap byte).flatMap String.utf8EncodeChar = value.flatMap bytes := by
    rw [flatMap_assoc]
    rfl
  have quote : String.utf8EncodeChar '"' = [0x22] := by decide
  rw [literal, Bytes.ofString_chars, text, String.toList_ofList, chars, cons_append,
    flatMap_cons, flatMap_append, inner, flatMap_singleton, quote]
  rfl

section Forms

variable (value : UInt8)

def Escapes : Prop := (value = 0x22 ∨ value = 0x5c) ∧ bytes value = [0x5c, value]

def Stands : Prop := 0x20 ≤ value ∧ value < 0x7f ∧ value ≠ 0x22 ∧ value ≠ 0x5c ∧ bytes value = [value]

def Counts : Prop := bytes value = [0x5c, 0x30 + ofNat (value.toNat / 100), 0x30 + ofNat (value.toNat / 10 % 10),
    0x30 + ofNat (value.toNat % 10)]

lemma bytes_forms : Escapes value ∨ Stands value ∨ Counts value := by
  have table : ∀ code : Fin 256, Escapes (ofNat code) ∨ Stands (ofNat code) ∨ Counts (ofNat code) := by
    simp only [Escapes, Stands, Counts]
    decide +kernel
  have entry := table ⟨value.toNat, value.toNat_lt⟩
  rwa [UInt8.ofNat_toNat] at entry

end Forms

lemma digit_reads {number : Nat} (small : number < 10) :
    isDigit (0x30 + ofNat number) = true ∧ digitValue (0x30 + ofNat number) = number := by
  have table : ∀ digit : Fin 10, isDigit (0x30 + ofNat digit) = true ∧ digitValue (0x30 + ofNat digit) = digit := by decide
  exact table ⟨number, small⟩

lemma readFrom_cons {delimiter : UInt8} {place next : Place} {value read : Bytes} {byte : UInt8}
    {rest : Bytes} (step : step? delimiter place value byte = some (next, read)) :
    readFrom delimiter place value (byte :: rest) = readFrom delimiter next read rest := by
  cases place with
  | closed => cases step
  | inside | escape | code number digits | broken first => rw [readFrom, step]; rfl; simp

lemma readFrom_code {number : Nat} {value rest : Bytes} (small : number < 256) : readFrom 0x22 (.code number 3) value rest
      = readFrom 0x22 .inside (ofNat number :: value) rest := by
  cases rest with
  | nil => rfl
  | cons byte rest =>
    have step : step? 0x22 (.code number 3) value byte = plain? 0x22 (ofNat number :: value) byte := by
      rw [step?, if_neg (by simp), if_pos small]
    rw [readFrom, readFrom, step]
    · rfl
    · simp
    · simp

lemma bytes_read (byte : UInt8) (value rest : Bytes) :
    readFrom 0x22 .inside value (bytes byte ++ rest) = readFrom 0x22 .inside (byte :: value) rest := by
  rcases bytes_forms byte with ⟨special, form⟩ | ⟨low, high, quote, slash, form⟩ | form
  · rw [form]
    rcases special with rfl | rfl <;> rfl
  · have ordinary : isBreak byte = false := by
      have above : byte ≠ 0x0a ∧ byte ≠ 0x0d := by
        constructor <;> rintro rfl <;> exact absurd low (by decide)
      simp [isBreak, above]
    have step : step? 0x22 .inside value byte = some (.inside, byte :: value) := by
      simp [step?, plain?, quote, slash, ordinary]
    rw [form, singleton_append, readFrom_cons step]
  · have bound : byte.toNat < 256 := byte.toNat_lt
    obtain ⟨firstDigit, firstValue⟩ := digit_reads (show byte.toNat / 100 < 10 by omega)
    obtain ⟨secondDigit, secondValue⟩ := digit_reads (show byte.toNat / 10 % 10 < 10 by omega)
    obtain ⟨thirdDigit, thirdValue⟩ := digit_reads (show byte.toNat % 10 < 10 by omega)
    have number : 10 * (10 * (byte.toNat / 100) + byte.toNat / 10 % 10) + byte.toNat % 10 = byte.toNat := by
      omega
    have slash : step? 0x22 .inside value 0x5c = some (.escape, value) := rfl
    have first : step? 0x22 .escape value (0x30 + ofNat (byte.toNat / 100)) = some (.code (byte.toNat / 100) 1, value) := by
      rw [step?, if_pos firstDigit, firstValue]
    have second : step? 0x22 (.code (byte.toNat / 100) 1) value (0x30 + ofNat (byte.toNat / 10 % 10))
        = some (.code (10 * (byte.toNat / 100) + byte.toNat / 10 % 10) 2, value) := by
      rw [step?, secondDigit, if_pos (by decide), secondValue]
    have third : step? 0x22 (.code (10 * (byte.toNat / 100) + byte.toNat / 10 % 10) 2) value (0x30 + ofNat (byte.toNat % 10))
        = some (.code byte.toNat 3, value) := by
      rw [step?, thirdDigit, if_pos (by decide), thirdValue, number]
    rw [form, cons_append, cons_append, cons_append, cons_append, nil_append,
      readFrom_cons slash, readFrom_cons first, readFrom_cons second, readFrom_cons third,
      readFrom_code bound, UInt8.ofNat_toNat]

lemma value_read (value read rest : Bytes) : readFrom 0x22 .inside read (value.flatMap bytes ++ 0x22 :: rest)
      = some (read.reverse ++ value, rest) := by
  induction value generalizing read with
  | nil =>
    have close : step? 0x22 .inside read 0x22 = some (.closed, read) := rfl
    rw [flatMap_nil, nil_append, readFrom_cons close, readFrom, append_nil]
  | cons byte value ih =>
    rw [flatMap_cons, append_assoc, bytes_read, ih, reverse_cons, append_assoc, singleton_append]

lemma literal_read (value rest : Bytes) : read? (literal value ++ rest) = some (value, rest) := by
  rw [literal_bytes, cons_append, append_assoc, singleton_append, read?, if_pos (by decide), value_read, reverse_nil, nil_append]

lemma bytes_printable {value byte : UInt8} (member : byte ∈ bytes value) : 0x20 ≤ byte ∧ byte < 0x7f := by
  have table : ∀ code : Fin 256, (bytes (ofNat code)).all (fun byte => 0x20 ≤ byte && byte < 0x7f) = true := by
    decide +kernel
  have entry := table ⟨value.toNat, value.toNat_lt⟩
  rw [UInt8.ofNat_toNat, all_eq_true] at entry
  simpa using entry byte member

lemma literal_printable {value : Bytes} {byte : UInt8} (member : byte ∈ literal value) : 0x20 ≤ byte ∧ byte < 0x7f := by
  rw [literal_bytes, mem_cons, mem_append, mem_singleton, mem_flatMap] at member
  rcases member with rfl | ⟨source, _, inner⟩ | rfl
  · decide
  · exact bytes_printable inner
  · decide

lemma beforeQuote_bytes (byte : UInt8) (rest : Bytes) :
    beforeQuote false (bytes byte ++ rest) = (beforeQuote false rest).map (· + (bytes byte).length) := by
  have twice (count : Option Nat) (first second : Nat) :
      (count.map (· + first)).map (· + second) = count.map (· + (first + second)) := by
    rw [Option.map_map]
    congr 1
    funext number
    exact Nat.add_assoc number first second
  rcases bytes_forms byte with ⟨special, form⟩ | ⟨_, _, quote, slash, form⟩ | form
  · rw [form]
    exact twice _ 1 1
  · have ordinary : (byte == 0x22) = false ∧ (byte == 0x5c) = false := by simp [quote, slash]
    rw [form, singleton_append, beforeQuote, ordinary.1, ordinary.2]
    rfl
  · -- The digits after the first are neither quotes nor backslashes.
    have digit (number : Nat) (small : number < 10) (rest : Bytes) :
        beforeQuote false ((0x30 + ofNat number) :: rest) = (beforeQuote false rest).map (· + 1) := by
      have other : ∀ digit : Fin 10, (0x30 + ofNat digit == 0x22) = false ∧ (0x30 + ofNat digit == 0x5c) = false := by decide
      obtain ⟨noQuote, noSlash⟩ := other ⟨number, small⟩
      rw [beforeQuote, noQuote, noSlash]
      rfl
    have skipped : beforeQuote false (bytes byte ++ rest) = ((beforeQuote false ((0x30 + ofNat (byte.toNat / 10 % 10)) ::
            (0x30 + ofNat (byte.toNat % 10)) :: rest)).map (· + 1)).map (· + 1) := by
      rw [form]
      rfl
    rw [skipped, digit _ (by omega), digit _ (by omega), twice, twice, twice, form]
    rfl

lemma beforeQuote_value (value rest : Bytes) :
    beforeQuote false (value.flatMap bytes ++ 0x22 :: rest) = some (value.flatMap bytes).length := by
  induction value with
  | nil => rfl
  | cons byte value ih =>
    rw [flatMap_cons, append_assoc, beforeQuote_bytes, ih, length_append, Option.map_some, Nat.add_comm]

/-- A written literal is printable; whatever follows it, the reader stops at its last byte, the first
quote that nothing escapes, with the value that was written. -/
theorem literals_read_back (value : Bytes) :
    (∀ byte ∈ literal value, 0x20 ≤ byte ∧ byte < 0x7f) ∧
    (∃ inner, literal value = 0x22 :: (inner ++ [0x22]) ∧
      ∀ rest, beforeQuote false (inner ++ 0x22 :: rest) = some inner.length) ∧
    (∀ rest, read? (literal value ++ rest) = some (value, rest)) ∧
    (∀ other rest others, literal value ++ rest = literal other ++ others → value = other ∧ rest = others) ∧
    Function.Injective text := by
  have unique (value other rest others : Bytes) (same : literal value ++ rest = literal other ++ others) :
      value = other ∧ rest = others := by
    have reads := literal_read value rest
    rw [same, literal_read other others, Option.some_inj, Prod.mk.injEq] at reads
    exact ⟨reads.1.symm, reads.2.symm⟩
  refine ⟨fun byte member => literal_printable member,
    ⟨value.flatMap bytes, literal_bytes value, beforeQuote_value value⟩, literal_read value,
    unique value, ?_⟩
  intro value other same
  have literals : literal value ++ [] = literal other ++ [] := by rw [literal, literal, same]
  exact (unique value other [] [] literals).1

example : literal [0x00, 0x31, 0x22, 0x5c, 0xff] = Bytes.ofString "\"\\0001\\\"\\\\\\255\"" := by
  decide +kernel

end WasmLua.Target.Quoted
