import Glitch.Float.Decimal
/-!
A command-line grammar as data: a program with options of its own and subcommands, each option
a flag or an option taking a typed value, and the texts people see about them.

A subcommand sees its own options and the program's global ones. Values are read as paths
(never empty), free text, unsigned 64-bit numbers or binary64 numbers, with the standard
library's error texts for numbers that do not read.
-/
namespace Glitch.Cli

inductive ValueKind where
  | path
  | text
  | count
  | number
  deriving DecidableEq, Repr

/-- How an option is given: as a flag, with one value, or with one value each time it is
repeated. -/
inductive Takes where
  | flag
  | one (valueName : String) (kind : ValueKind)
  | each (valueName : String) (kind : ValueKind)
  deriving DecidableEq, Repr

/-- One option: the name its value is kept under, its long and short names, how it takes
values, its help, the default shown in help and used when it is left out, whether it must be
given, and whether subcommands see it. -/
structure Opt where
  id : String
  long : String
  short : Option Char
  takes : Takes
  help : String
  default : Option String
  required : Bool
  global : Bool
  deriving Repr

def Opt.flag (id : String) (short : Option Char) (help : String) : Opt :=
  ⟨id, id, short, .flag, help, none, false, false⟩

def Opt.value (id : String) (short : Option Char) (kind : ValueKind) (help : String) : Opt :=
  ⟨id, id, short, .one id.toUpper kind, help, none, false, false⟩

/-- A command: its name, its one-line and long descriptions, and its options. -/
structure Command where
  name : String
  about : String
  longAbout : Option String
  opts : List Opt
  deriving Repr

structure Program where
  root : Command
  version : String
  subcommands : List Command
  deriving Repr

inductive ArgValue where
  | flag
  | text (s : String)
  | count (n : Nat)
  | number (x : F64)

def Takes.placeholder : Takes → String
  | .flag => ""
  | .one n _ => "<" ++ n ++ ">"
  | .each n _ => "<" ++ n ++ ">"

def Opt.display (o : Opt) : String :=
  match o.takes with
  | .flag => "--" ++ o.long
  | t => "--" ++ o.long ++ " " ++ t.placeholder

def allDigits (s : String) : Bool := !s.isEmpty && s.all Char.isDigit

/-- Read an unsigned 64-bit number as the standard library does: an optional `+`, then
digits; the error text when it does not read. -/
def readCount (s : String) : Except String Nat :=
  if s.isEmpty then .error "cannot parse integer from empty string"
  else
    let body := if s.startsWith "+" && s.length > 1 then (s.drop 1).toString else s
    if !allDigits body then .error "invalid digit found in string"
    else
      let n := body.foldl (fun acc c => acc * 10 + (c.toNat - 48)) 0
      if n < Nat.pow 2 64 then .ok n else .error "number too large to fit in target type"

/-- Read a binary64 number as the standard library does; the error text when it does not
read. -/
def readNumber (s : String) : Except String F64 :=
  if s.isEmpty then .error "cannot parse float from empty string"
  else
    match (Binary.ofText s : Except FloatTextError F64) with
    | .ok x => .ok x
    | .error _ => .error "invalid float literal"

def readValue (kind : ValueKind) (s : String) : Except (Option String) ArgValue :=
  match kind with
  | .path => if s.isEmpty then .error none else .ok (.text s)
  | .text => .ok (.text s)
  | .count =>
    match readCount s with
    | .ok n => .ok (.count n)
    | .error e => .error (some e)
  | .number =>
    match readNumber s with
    | .ok x => .ok (.number x)
    | .error e => .error (some e)

def Program.visible (p : Program) (c : Command) : List Opt :=
  if c.name == p.root.name then p.root.opts
  else c.opts ++ p.root.opts.filter Opt.global

end Glitch.Cli
