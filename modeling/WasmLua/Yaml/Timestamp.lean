/-!
Dates and times: a date such as 2001-12-14, with a time of day behind a blank or with a time of day
and its zone behind a letter.
-/

namespace WasmLua.Yaml.Timestamp

def number? : List Char → Option (Nat × List Char)
  | a :: b :: rest =>
    if !a.isDigit then none
    else if b.isDigit then some (10 * (a.toNat - 48) + (b.toNat - 48), rest)
    else some (a.toNat - 48, b :: rest)
  | [a] => if a.isDigit then some (a.toNat - 48, []) else none
  | [] => none

def numberBelow? (limit : Nat) (text : List Char) : Option (List Char) := do
  let (value, rest) ← number? text
  if value < limit then return rest else none

def mark? (mark : Char) : List Char → Option (List Char)
  | c :: rest => if c == mark then some rest else none
  | [] => none

def isLeap (year : Nat) : Bool := year % 4 == 0 && (year % 100 != 0 || year % 400 == 0)

def daysIn (year month : Nat) : Nat :=
  if month == 2 then (if isLeap year then 29 else 28)
  else if [4, 6, 9, 11].contains month then 30
  else 31

def date? (text : List Char) : Option (List Char) := do
  let year := text.takeWhile Char.isDigit
  if year.length != 4 then none
  else
    let rest ← mark? '-' (text.drop 4)
    let (month, rest) ← number? rest
    let rest ← mark? '-' rest
    let (day, rest) ← number? rest
    let year := year.foldl (fun value c => value * 10 + (c.toNat - 48)) 0
    if 1 ≤ month && month ≤ 12 && 1 ≤ day && day ≤ daysIn year month then return rest else none

def dropFraction : List Char → List Char
  | point :: digit :: rest =>
    if (point == '.' || point == ',') && digit.isDigit then rest.dropWhile Char.isDigit
    else point :: digit :: rest
  | text => text

def time? (text : List Char) : Option (List Char) := do
  let rest ← numberBelow? 24 text
  let rest ← numberBelow? 60 (← mark? ':' rest)
  let rest ← numberBelow? 60 (← mark? ':' rest)
  return dropFraction rest

def isZone (text : List Char) : Bool :=
  match text with
  | ['Z'] => true
  | [sign, a, b, colon, c, d] =>
    (sign == '+' || sign == '-') && colon == ':' && [a, b, c, d].all Char.isDigit
      && 10 * (a.toNat - 48) + (b.toNat - 48) ≤ 24 && 10 * (c.toNat - 48) + (d.toNat - 48) ≤ 60
  | _ => false

def isWritten (text : List Char) : Bool :=
  match date? text with
  | none => false
  | some [] => true
  | some (c :: rest) =>
    if c == 'T' || c == 't' then ((time? rest).map isZone).getD false
    else if c == ' ' then (time? (rest.dropWhile (· == ' '))).map List.isEmpty |>.getD false
    else false

end WasmLua.Yaml.Timestamp
