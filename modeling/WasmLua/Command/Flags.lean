import WasmLua.Number.Literal

/-!
Flags of the command line: long ones with two dashes, letters with one, letters in groups, values
after an equals sign or as the next argument.
-/

namespace WasmLua.Command

open Bytes

inductive FlagKind where
  | switch
  | text
  | word
deriving DecidableEq, Repr

structure Flag where
  name : String
  letter : Option Char
  kind : FlagKind
deriving DecidableEq, Repr

inductive FlagValue where
  | switch (value : Bool)
  | text (value : Bytes)
  | word (value : UInt32)
deriving DecidableEq, Repr

inductive FlagError where
  | badSyntax (arg : Bytes)
  | unknown (name : Bytes)
  | unknownLetter (letter : UInt8) (group : Bytes)
  | needsValue (arg : Bytes)
  | letterNeedsValue (letter : UInt8) (group : Bytes)
  | invalid (value : Bytes) (flag : Flag) (error : LiteralError)
  | help
deriving DecidableEq, Repr

def Flag.title (flag : Flag) : String :=
  match flag.letter with
  | some letter => String.ofList ['-', letter] ++ ", --" ++ flag.name
  | none => "--" ++ flag.name

def letterText (letter : UInt8) : String := Quoted.single (Char.ofNat letter.toNat)

def FlagError.message : FlagError → Bytes
  | .badSyntax arg => ofString "bad flag syntax: " ++ arg
  | .unknown name => ofString "unknown flag: --" ++ name
  | .unknownLetter letter group =>
    ofString ("unknown shorthand flag: " ++ letterText letter ++ " in -") ++ group
  | .needsValue arg => ofString "flag needs an argument: " ++ arg
  | .letterNeedsValue letter group =>
    ofString ("flag needs an argument: " ++ letterText letter ++ " in -") ++ group
  | .invalid value flag error =>
    ofString ("invalid argument " ++ Quoted.bytes value ++ " for " ++ Quoted.bytes (ofString flag.title) ++ " flag: " ++ error.message)
  | .help => ofString "pflag: help requested"

structure Given where
  values : List (String × FlagValue)
  args : List Bytes
deriving DecidableEq, Repr

namespace Given

def none : Given := ⟨[], []⟩

def value? (given : Given) (name : String) : Option FlagValue := given.values.lookup name

def switch? (given : Given) (name : String) : Option Bool :=
  match given.value? name with
  | some (.switch value) => some value
  | _ => Option.none

def text? (given : Given) (name : String) : Option Bytes :=
  match given.value? name with
  | some (.text value) => some value
  | _ => Option.none

def word? (given : Given) (name : String) : Option UInt32 :=
  match given.value? name with
  | some (.word value) => some value
  | _ => Option.none

def assign (given : Given) (flag : Flag) (value : Bytes) : Except FlagError Given :=
  let set (value : FlagValue) : Given := { given with values := (flag.name, value) :: given.values }
  match flag.kind with
  | .switch => ((Literal.boolean value).mapError (.invalid value flag)).map fun found => set (.switch found)
  | .text => .ok (set (.text value))
  | .word =>
    ((Literal.unsigned 32 value).mapError (.invalid value flag)).map fun found =>
      set (.word (UInt32.ofNat found))

end Given

namespace Flags

def dash : UInt8 := 0x2d

def equals : UInt8 := 0x3d

def present : Bytes := ofString "true"

def named? (flags : List Flag) (name : Bytes) : Option Flag := flags.find? fun flag => ofString flag.name == name

def lettered? (flags : List Flag) (letter : UInt8) : Option Flag := flags.find? fun flag =>
    match flag.letter with
    | some own => own.toNat == letter.toNat
    | none => false

structure Pending where
  flag : Flag
  missing : FlagError

def long (flags : List Flag) (arg body : Bytes) (given : Given) : Except FlagError (Given × Option Pending) := do
  match body with
  | [] => throw (.badSyntax arg)
  | first :: _ =>
    if first == dash || first == equals then throw (.badSyntax arg)
    let name := body.takeWhile (· != equals)
    match named? flags name with
    | none => if name == ofString "help" then throw .help else throw (.unknown name)
    | some flag =>
      match body.drop name.length with
      | _ :: value => return (← given.assign flag value, none)
      | [] =>
        if flag.kind = .switch then return (← given.assign flag present, none)
        else return (given, some ⟨flag, .needsValue arg⟩)

def letters (flags : List Flag) : Bytes → Given → Except FlagError (Given × Option Pending)
  | [], given => .ok (given, none)
  | letter :: rest, given =>
    if (ofString "test.").isPrefixOf (letter :: rest) then .ok (given, none)
    else
      match lettered? flags letter with
      | none =>
        if letter.toNat == 'h'.toNat then .error .help
        else .error (.unknownLetter letter (letter :: rest))
      | some flag =>
        match rest with
        | mark :: c :: value =>
          if mark == equals then (given.assign flag (c :: value)).map (·, none)
          else if flag.kind = .switch then
            match given.assign flag present with
            | .ok given => letters flags rest given
            | .error error => .error error
          else (given.assign flag rest).map (·, none)
        | _ =>
          if flag.kind = .switch then
            match given.assign flag present with
            | .ok given => letters flags rest given
            | .error error => .error error
          else if rest.isEmpty then
            .ok (given, some ⟨flag, .letterNeedsValue letter (letter :: rest)⟩)
          else (given.assign flag rest).map (·, none)

inductive Shape where
  | positional
  | terminator
  | long (body : Bytes)
  | letters (group : Bytes)

def shape : Bytes → Shape
  | first :: second :: rest =>
    if first != dash then .positional
    else if second != dash then .letters (second :: rest)
    else if rest.isEmpty then .terminator
    else .long rest
  | _ => .positional

def parseFrom (flags : List Flag) : List Bytes → Given → Except FlagError Given
  | [], given => .ok given
  | arg :: rest, given =>
    let follow (step : Except FlagError (Given × Option Pending)) : Except FlagError Given :=
      match step with
      | .error error => .error error
      | .ok (given, none) => parseFrom flags rest given
      | .ok (given, some pending) =>
        match rest with
        | [] => .error pending.missing
        | value :: rest =>
          match given.assign pending.flag value with
          | .ok given => parseFrom flags rest given
          | .error error => .error error
    match shape arg with
    | .positional => parseFrom flags rest { given with args := given.args ++ [arg] }
    | .terminator => .ok { given with args := given.args ++ rest }
    | .long body => follow (long flags arg body given)
    | .letters group => follow (letters flags group given)

def parse (flags : List Flag) (args : List Bytes) : Except FlagError Given := parseFrom flags args .none

end Flags

end WasmLua.Command
