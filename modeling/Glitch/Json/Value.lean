import Glitch.Float.Decimal
/-!
JSON values and their text.

Numbers keep the reading a JSON reader gives them: a nonnegative integer that fits 64 bits, a
negative integer that fits 64 bits, or a binary64 value for anything else. Objects keep their
members in order. Text is written compactly or pretty (two-space indent); strings escape the
quote, the backslash and control characters; a binary64 is written by its compact number
text, and one that is not finite is written as `null`.
-/
namespace Glitch

/-- A JSON number as read. -/
inductive JsonNumber where
  | nat (n : Nat)
  | neg (i : Int)
  | float (x : F64)
  deriving DecidableEq

/-- A JSON value. -/
inductive Json where
  | null
  | bool (b : Bool)
  | num (n : JsonNumber)
  | str (s : String)
  | arr (xs : List Json)
  | obj (kvs : List (String × Json))
  deriving Inhabited

namespace Json

def int (i : Int) : Json := if 0 ≤ i then .num (.nat i.toNat) else .num (.neg i)

def nat (n : Nat) : Json := .num (.nat n)

def f64 (x : F64) : Json := .num (.float x)

def f32 (x : F32) : Json := .num (.float x.toF64)

def get? (j : Json) (k : String) : Option Json :=
  match j with
  | .obj kvs => kvs.lookup k
  | _ => none

end Json

def hex4 (n : Nat) : String :=
  let ds := Nat.toDigits 16 n
  String.ofList (List.replicate (4 - ds.length) '0' ++ ds)

/-- A character as written inside a JSON string. -/
def escapeJsonChar (c : Char) : String :=
  if c = '"' then "\\\""
  else if c = '\\' then "\\\\"
  else if c = '\n' then "\\n"
  else if c = '\r' then "\\r"
  else if c = '\t' then "\\t"
  else if c.toNat = 8 then "\\b"
  else if c.toNat = 12 then "\\f"
  else if c.toNat < 0x20 then "\\u" ++ hex4 c.toNat
  else String.singleton c

def quoteJson (s : String) : String := "\"" ++ String.join (s.toList.map escapeJsonChar) ++ "\""

def JsonNumber.render : JsonNumber → String
  | .nat n => toString n
  | .neg i => toString i
  | .float x => (x.toCompactText? CompactStyle.double).getD "null"

/-- The text of a number known to be a binary32 value: the shortest digits that read back as
that binary32 value. Integers are written as they are. -/
def JsonNumber.renderSingle : JsonNumber → String
  | .nat n => toString n
  | .neg i => toString i
  | .float x => (x.toF32.toCompactText? CompactStyle.single).getD "null"

namespace Json

mutual
def renderWith (num : JsonNumber → String) : Json → String
  | .null => "null"
  | .bool b => if b then "true" else "false"
  | .num n => num n
  | .str s => quoteJson s
  | .arr xs => "[" ++ renderItems num xs ++ "]"
  | .obj kvs => "\x7b" ++ renderMembers num kvs ++ "\x7d"

/-- Compact text of array items, comma separated. -/
def renderItems (num : JsonNumber → String) : List Json → String
  | [] => ""
  | [x] => renderWith num x
  | x :: rest => renderWith num x ++ "," ++ renderItems num rest

/-- Compact text of object members, comma separated. -/
def renderMembers (num : JsonNumber → String) : List (String × Json) → String
  | [] => ""
  | [(k, v)] => quoteJson k ++ ":" ++ renderWith num v
  | (k, v) :: rest => quoteJson k ++ ":" ++ renderWith num v ++ "," ++ renderMembers num rest
end

def render (j : Json) : String := renderWith JsonNumber.render j

def indent (n : Nat) : String := String.ofList (List.replicate (2 * n) ' ')

mutual
/-- Pretty text at nesting depth `d`, numbers written by `num`. -/
def prettyWith (num : JsonNumber → String) (d : Nat) : Json → String
  | .arr [] => "[]"
  | .obj [] => "\x7b\x7d"
  | .arr xs => "[\n" ++ prettyItems num (d + 1) xs ++ "\n" ++ indent d ++ "]"
  | .obj kvs => "\x7b\n" ++ prettyMembers num (d + 1) kvs ++ "\n" ++ indent d ++ "\x7d"
  | j => renderWith num j

def prettyItems (num : JsonNumber → String) (d : Nat) : List Json → String
  | [] => ""
  | [x] => indent d ++ prettyWith num d x
  | x :: rest => indent d ++ prettyWith num d x ++ ",\n" ++ prettyItems num d rest

def prettyMembers (num : JsonNumber → String) (d : Nat) : List (String × Json) → String
  | [] => ""
  | [(k, v)] => indent d ++ quoteJson k ++ ": " ++ prettyWith num d v
  | (k, v) :: rest => indent d ++ quoteJson k ++ ": " ++ prettyWith num d v ++ ",\n" ++ prettyMembers num d rest
end

def pretty (d : Nat) (j : Json) : String := prettyWith JsonNumber.render d j

end Json

end Glitch
