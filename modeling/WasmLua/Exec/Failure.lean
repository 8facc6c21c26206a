import WasmLua.Exec.Value

namespace WasmLua.Exec

open Bytes

inductive Raised where
  | text (message : Bytes)
  | located (message : Bytes)
  | operand
  | crash
deriving DecidableEq, Repr

def trapMark : String := "wasm trap: "

def linkMark : String := "wasm link: "

def Trap.raised (trap : Trap) : Raised := .text (ofString (trapMark ++ trap.text))

def Fault.raised : Fault → Raised
  | .trap kind => kind.raised
  | .operand => .operand
  | .negation => .located (ofString "__unm undefined")
  | .place => .located (ofString "table index is NaN")

inductive Mismatch where
  | passed (type : Wasm.ValueType) (found : String)
  | held (type : Wasm.ValueType) (found : String)
deriving DecidableEq, Repr

def Mismatch.message : Mismatch → String
  | .passed .i64 found => s!"expected an i64, got {found}"
  | .passed type found => "expected a value of type " ++ type.text ++ ", got " ++ found
  | .held type found => "expected a Lua value of type " ++ type.text ++ ", got " ++ found

inductive ExternFault where
  | missing
  | notTable (position : Nat)
  | unknownKind (kind : Bytes)
deriving DecidableEq, Repr

def ExternFault.message : ExternFault → String
  | .missing => "missing extern list"
  | .notTable position => s!"extern {position} is not a table"
  | .unknownKind kind => "unknown extern kind " ++ Quoted.bytes kind

inductive Failure where
  | trap (kind : Bytes)
  | link (reason : Bytes)
  | raised (message : Option Bytes)
  | crash
  | noDescription
  | imports (fault : ExternFault)
  | exports (fault : ExternFault)
  | noInstance
  | unsupportedImport (module field : Bytes) (found : String)
  | exportNotFound (module name : Bytes)
  | kindMismatch (module name : Bytes) (want found : Wasm.ExternKind)
  | malformedSignature (key : Bytes)
  | invalidType (key : Bytes)
  | argumentCount (name : Bytes) (want found : Nat)
  | argument (index : Nat) (mismatch : Mismatch)
  | result (index : Nat) (mismatch : Mismatch)
  | value (mismatch : Mismatch)
  | notCell (name : Bytes)
  | noMemory (name : Bytes)
  | noTable (name : Bytes)
  | immutable
  | noContents
deriving DecidableEq, Repr

namespace Failure

def message : Failure → Option Bytes
  | .trap kind => some (ofString trapMark ++ kind)
  | .link reason => some (ofString linkMark ++ reason)
  | .raised text => text
  | .crash => none
  | .noContents => none
  | .noDescription => text "source does not evaluate to a module descriptor"
  | .imports fault => text ("imports: " ++ fault.message)
  | .exports fault => text ("exports: " ++ fault.message)
  | .noInstance => text "instantiate did not return an instance"
  | .unsupportedImport module field found =>
    some (ofString "import " ++ module ++ ofString "." ++ field ++ ofString (": unsupported import value of type " ++ found))
  | .exportNotFound module name =>
    some (ofString "wasm: couldn't find export with name " ++ name ++ ofString " in module " ++ module)
  | .kindMismatch module name want found =>
    some (ofString "wasm: mismatching export external kind for " ++ module
      ++ ofString "." ++ name ++ ofString (" (" ++ want.text ++ ", " ++ found.text ++ ")"))
  | .malformedSignature key => text (Wasm.Signature.malformedKey key)
  | .invalidType key => text ("invalid value type key " ++ Quoted.bytes key)
  | .argumentCount name want found =>
    some (name ++ ofString s!" expects {want} arguments, got {found}")
  | .argument index mismatch => text (s!"argument {index}: " ++ mismatch.message)
  | .result index mismatch => text (s!"result {index}: " ++ mismatch.message)
  | .value mismatch => text mismatch.message
  | .notCell name => some (ofString "global " ++ name ++ ofString " is not a cell")
  | .noMemory name => some (ofString "memory " ++ name ++ ofString " is not a table")
  | .noTable name => some (ofString "table " ++ name ++ ofString " is not a table")
  | .immutable => text "global is immutable"
where
  text (value : String) : Option Bytes := some (ofString value)

def afterMark? (mark : String) (text : Bytes) : Option Bytes :=
  let mark := ofString mark
  if mark.isPrefixOf text then some (text.drop mark.length) else none

def reportsOverflow (text : Bytes) : Bool := occurs (ofString "stack overflow") text
    || occurs (ofString "registry overflow") text

def afterPosition? (text : Bytes) : Option Bytes :=
  let name := text.takeWhile fun byte => byte != Literal.code ':' && byte != Literal.code '\n'
  match text.drop name.length with
  | _ :: rest =>
    let line := rest.takeWhile Literal.isDecimal
    match rest.drop line.length with
    | colon :: blank :: rest =>
      if !name.isEmpty && !line.isEmpty && colon == Literal.code ':' && blank == Literal.code ' ' then
        some rest
      else none
    | _ => none
  | [] => none

def operationMarks : List String := ["attempt to", "cannot perform", "bad argument"]

def ofMessage (text : Bytes) : Failure :=
  if operationMarks.any fun mark => (ofString mark).isPrefixOf text then .raised none
  else .raised (some text)

def ofUnmarked (strip : Bytes → Bytes) (text : Bytes) : Failure :=
  if reportsOverflow text then .trap (ofString Trap.callStackExhausted.text)
  else ofMessage (strip text)

def ofText (text : Bytes) : Failure :=
  match afterMark? trapMark text with
  | some kind => .trap kind
  | none =>
    match afterMark? linkMark text with
    | some reason => .link reason
    | none => ofUnmarked (fun text => (afterPosition? text).getD text) text

def ofRaised : Raised → Failure
  | .text message => ofText message
  | .located message => ofUnmarked id message
  | .operand => .raised none
  | .crash => .crash

end Failure

end WasmLua.Exec
