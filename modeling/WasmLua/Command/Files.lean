import WasmLua.Text.Bytes

namespace WasmLua.Command

abbrev Files := List (Bytes × Bytes)

namespace Path

def slash : UInt8 := 0x2f

def dot : UInt8 := 0x2e

def steps : Bytes → List Bytes
  | [] => [[]]
  | byte :: rest =>
    if byte == slash then [] :: steps rest
    else match steps rest with
      | [] => [[byte]]
      | first :: others => (byte :: first) :: others

def walk (rooted : Bool) (taken : List Bytes) (step : Bytes) : List Bytes :=
  if step.isEmpty || step == [dot] then taken
  else if step == [dot, dot] then
    match taken with
    | [] => if rooted then [] else [step]
    | last :: before => if last == [dot, dot] then step :: taken else before
  else step :: taken

def clean (path : Bytes) : Bytes :=
  let rooted := path.head? == some slash
  let taken := ((steps path).foldl (walk rooted) []).reverse
  if rooted then slash :: (List.intercalate [slash] taken)
  else if taken.isEmpty || taken == [[dot, dot]] then [slash]
  else List.intercalate [slash] taken

def base (path : Bytes) : Bytes :=
  if path.isEmpty then [dot]
  else
    let trimmed := (path.reverse.dropWhile (· == slash)).reverse
    if trimmed.isEmpty then [slash]
    else (trimmed.reverse.takeWhile (· != slash)).reverse

def withoutExtension (name : Bytes) : Bytes :=
  if name.contains dot then ((name.reverse.dropWhile (· != dot)).drop 1).reverse else name

def stem (path : Bytes) : Bytes := withoutExtension (base path)

end Path

namespace Files

def isDirectory (files : Files) (path : Bytes) : Bool :=
  let place := Path.clean path
  place == [Path.slash] || files.any fun file => (place ++ [Path.slash]).isPrefixOf (Path.clean file.1)

def read? (files : Files) (path : Bytes) : Option Bytes :=
  let place := Path.clean path
  match files.find? fun file => Path.clean file.1 == place with
  | some file => some file.2
  | none => if files.isDirectory path then some [] else none

def canHold (files : Files) (path : Bytes) : Bool := !files.isDirectory path &&
    !([Path.dot, Path.dot, Path.slash].isPrefixOf (Path.clean path))

end Files

end WasmLua.Command
