import WasmLua.Number.Literal
import WasmLua.Text.Base64
import WasmLua.Yaml.Node
import WasmLua.Yaml.Timestamp

namespace WasmLua.Yaml

inductive Resolved where
  | null
  | bool (value : Bool)
  | int (value : Int)
  | float (value : Number)
  | timestamp
  | text (value : Bytes)
deriving DecidableEq

def Resolved.tag : Resolved → Tag
  | .null => .null
  | .bool _ => .bool
  | .int _ => .int
  | .float _ => .float
  | .timestamp => .timestamp
  | .text _ => .text

def word? (text : String) : Option Resolved :=
  if ["", "~", "null", "Null", "NULL"].contains text then some .null
  else if ["true", "True", "TRUE"].contains text then some (.bool true)
  else if ["false", "False", "FALSE"].contains text then some (.bool false)
  else if [".nan", ".NaN", ".NAN"].contains text then some (.float .nan)
  else if [".inf", ".Inf", ".INF", "+.inf", "+.Inf", "+.INF"].contains text then
    some (.float (.infinity false))
  else if ["-.inf", "-.Inf", "-.INF"].contains text then some (.float (.infinity true))
  else none

def dropSign : List Char → List Char
  | '+' :: rest => rest
  | '-' :: rest => rest
  | text => text

def looksFloat (text : List Char) : Bool :=
  let body := dropSign text
  let whole := body.takeWhile Char.isDigit
  let (fraction, rest) := match body.drop whole.length with
    | '.' :: rest => (rest.takeWhile Char.isDigit, rest.dropWhile Char.isDigit)
    | rest => ([], rest)
  let exponent := match rest with
    | [] => true
    | c :: rest =>
      (c == 'e' || c == 'E') && !(dropSign rest).isEmpty && (dropSign rest).all Char.isDigit
  (!whole.isEmpty || !fraction.isEmpty) && exponent

def float? (text : String) : Option Number := (Literal.float .binary64 (Bytes.ofString text)).toOption

def lateSign? (text : List Char) : Option Int :=
  let read (mark : List Char) (rest : List Char) : Option Int :=
    match rest with
    | c :: digits =>
      if c == '+' || c == '-' then
        Literal.signed? 64 (Bytes.ofString (String.ofList (c :: mark ++ digits)))
      else none
    | [] => none
  match text with
  | '0' :: 'b' :: rest => read ['0', 'b'] rest
  | '0' :: 'o' :: rest => read ['0', 'o'] rest
  | _ => none

def number? (text : String) : Option Resolved :=
  let plain := text.toList.filter (· != '_')
  let bytes := Bytes.ofString (String.ofList plain)
  match Literal.signed? 64 bytes, Literal.unsigned 64 bytes with
  | some value, _ => some (.int value)
  | none, .ok value => some (.int value)
  | none, .error _ =>
    match if looksFloat plain then float? (String.ofList plain) else none with
    | some value => some (.float value)
    | none => (lateSign? plain).map .int

def resolvePlain (times : Bool) (text : String) : Resolved :=
  match word? text with
  | some found => found
  | none =>
    let other := Resolved.text (Bytes.ofString text)
    match text.toList with
    | c :: rest =>
      if c == '.' then ((float? text).map .float).getD other
      else if c.isDigit || c == '+' || c == '-' then
        if times && Timestamp.isWritten (c :: rest) then .timestamp else (number? text).getD other
      else other
    | [] => .null

def resolve? (style : Style) (tag : Option Tag) (text : String) : Option Resolved :=
  let plain := some (Resolved.text (Bytes.ofString text))
  let typed (tag : Tag) : Option Resolved :=
    let found := resolvePlain (tag == .timestamp) text
    if found.tag == tag then some found else none
  match tag with
  | none => if style == .quoted then plain else some (resolvePlain true text)
  | some .text => plain
  | some .merge => plain
  | some .other => plain
  | some .binary => (Base64.decode? (Bytes.ofString text)).map .text
  | some .float =>
    match resolvePlain false text with
    | .int value => if value < 0x8000000000000000 then some (.float (.ofInt value)) else none
    | _ => typed .float
  | some tag => typed tag

end WasmLua.Yaml
