import WasmLua.Exec.Memory

namespace WasmLua.Exec

open Arithmetic

structure Table where
  elements : Std.HashMap Number Value
  size : Number
  maximum : Number

namespace Table

def empty (size maximum : Number) : Table := ⟨∅, size, maximum⟩

def element (table : Table) (index : Number) : Value := table.elements.getD index .null

def put (table : Table) (index : Number) (value : Value) : Table :=
  if value = .null then { table with elements := table.elements.erase index }
  else { table with elements := table.elements.insert index value }

def get (table : Table) (index : Number) : Except Fault Value :=
  let index := unsigned index
  if table.size.le index then .error (.trap .outOfBoundsTable) else .ok (table.element index)

def set (table : Table) (index : Number) (value : Value) : Except Fault Table :=
  let index := unsigned index
  if table.size.le index then .error (.trap .outOfBoundsTable)
  else if index.isNaN then .error .place
  else .ok (table.put index value)

def putFrom (value : Value) : Nat → Number → Table → Table
  | 0, _, table => table
  | count + 1, index, table => putFrom value count (index + .ofInt 1) (table.put index value)

def grow (table : Table) (value : Value) (delta : Number) : Except Fault (Number × Table) := do
  let size := table.size + unsigned delta
  if table.maximum.lt size then return (.ofInt (-1), table)
  else
    let filled :=
      if value = .null then table
      else putFrom value (Memory.steps table.size (size - .ofInt 1)) table.size table
    return (← I32.wrap table.size, { filled with size })

def fill (table : Table) (index : Number) (value : Value) (count : Number) : Except Fault Table :=
  let index := unsigned index
  let count := unsigned count
  if table.size.lt (index + count) then .error (.trap .outOfBoundsTable)
  else .ok (putFrom value (Memory.steps index (index + count - .ofInt 1)) index table)

def check (table : Table) (offset : Number) (length : Nat) : Except Fault Unit :=
  if table.size.lt (unsigned offset + .ofInt length) then .error (.trap .outOfBoundsTable)
  else .ok ()

def writeFrom (base : Number) : Nat → List Value → Table → Table
  | _, [], table => table
  | position, first :: rest, table =>
    writeFrom base (position + 1) rest (table.put (base + .ofInt position) first)

def init (table : Table) (offset : Number) (values : List Value) : Except Fault Table :=
  let base := unsigned offset - .ofInt 1
  if base.isNaN && !values.isEmpty then .error .place else .ok (writeFrom base 1 values table)

def callee (table : Table) (index : Number) (key : Bytes) : Except Fault Callable :=
  let index := unsigned index
  if table.size.le index then .error (.trap .undefinedElement)
  else match table.element index with
    | .null => .error (.trap .uninitializedElement)
    | .ref _ _ found call => if found = key then .ok call else .error (.trap .callTypeMismatch)
    | .pair _ _ _ => .error (.trap .callTypeMismatch)
    | .object _ => .error (.trap .callTypeMismatch)
    | .text _ => .error (.trap .callTypeMismatch)
    | _ => .error .operand

end Table

end WasmLua.Exec
