import WasmLua.Number.Decimal
import WasmLua.Text.Bytes

namespace WasmLua.Exec

mutual

inductive Literal where
  | null
  | bool (value : Bool)
  | number (value : Number)
  | text (value : Bytes)
  | table (entries : Entries)
  | returning (results : Entries)
  | raising (message : Bytes)

inductive Entries where
  | none
  | entry (key : Option Bytes) (value : Literal) (rest : Entries)

end

deriving instance Repr for Literal, Entries

instance : Inhabited Literal := ⟨.null⟩

end WasmLua.Exec
