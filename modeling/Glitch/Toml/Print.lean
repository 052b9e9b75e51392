import Glitch.Toml.Lexeme
import Glitch.Float.Decimal
/-!
Writing TOML in the pretty layout: every table under its own header, a blank line before each
header but the first, `key = value` lines, and arrays of two or more items written one item per
line, indented by four spaces, with a trailing comma.

A string takes the first form that holds it without escapes: basic, literal, multi-line basic,
multi-line literal (`StringForm.choose`); failing all, a basic string with escapes.
-/
namespace Glitch.Toml

/-- Float text: the shortest digits in positional notation, `.0` after whole numbers, `nan`
whatever its sign, and `inf` and `-0.0` with their signs. -/
def floatText (x : F64) : String :=
  if x.isNaN then "nan"
  else if x.isInf then x.toPlainText
  else match x.kind with
    | .finite a m _ =>
      if m = 0 then (if a then "-0.0" else "0.0")
      else
        let t := x.toPlainText
        if x.trunc.eq x then t ++ ".0" else t
    | _ => x.toPlainText

/-- What decides a string's form: its longest runs of single and of double quotes, and whether
it holds a backslash, a line break, or a control character other than tab and line break. -/
structure StringMetrics where
  singles : Nat
  doubles : Nat
  backslash : Bool
  newline : Bool
  control : Bool

def StringMetrics.step (m : StringMetrics × Nat × Nat) (c : Char) : StringMetrics × Nat × Nat :=
  let (m, rs, rd) := m
  let rs := if c = '\'' then rs + 1 else 0
  let rd := if c = '"' then rd + 1 else 0
  let m := { m with singles := max m.singles rs, doubles := max m.doubles rd }
  let m :=
    if c = '\\' then { m with backslash := true }
    else if c = '\t' then m
    else if c = '\n' then { m with newline := true }
    else if c.toNat ≤ 0x1f || c.toNat = 0x7f then { m with control := true }
    else m
  (m, rs, rd)

def StringMetrics.of (s : String) : StringMetrics :=
  (s.toList.foldl StringMetrics.step (⟨0, 0, false, false, false⟩, 0, 0)).1

inductive StringForm where
  | basic
  | literal
  | multiBasic
  | multiLiteral
  deriving DecidableEq

/-- The form a string is written in: a basic string when nothing in it needs escaping, else a
literal string when it can hold it on one line, else a multi-line basic string when only line
breaks and runs of at most two double quotes would need escaping, else a multi-line literal
string when it has no control character and no run of three single quotes; failing all of these,
an escaped basic string, multi-line when it has a line break. -/
def StringForm.choose (m : StringMetrics) : StringForm :=
  if !m.control && !m.backslash && m.doubles = 0 && !m.newline then .basic
  else if !m.control && m.singles = 0 && !m.newline then .literal
  else if !m.control && !m.backslash && m.doubles ≤ 2 then .multiBasic
  else if !m.control && m.singles ≤ 2 then .multiLiteral
  else if m.newline then .multiBasic
  else .basic

def escapeBasic (multi : Bool) (c : Char) : String :=
  if c = '\x08' then "\\b"
  else if c = '\t' then "\\t"
  else if c = '\n' then (if multi then "\n" else "\\n")
  else if c = '\x0c' then "\\f"
  else if c = '\r' then "\\r"
  else if c = '\\' then "\\\\"
  else if c.toNat ≤ 0x1f || c.toNat = 0x7f then
    let h := String.ofList (Nat.toDigits 16 c.toNat) |>.toUpper
    "\\u" ++ String.ofList (List.replicate (4 - h.length) '0') ++ h
  else String.singleton c

/-- The body of a basic string: double quotes are kept raw in runs of up to `keep`, the one that
would make a run longer is escaped and starts a new run. -/
def escapedBody (multi : Bool) (keep : Nat) (s : String) : String :=
  (s.toList.foldl (fun (acc : String × Nat) c =>
    let (out, run) := acc
    if c = '"' then
      if keep < run + 1 then (out ++ "\\\"", 0) else (out.push '"', run + 1)
    else (out ++ escapeBasic multi c, 0)) ("", 0)).1

def stringText (s : String) : String :=
  let m := StringMetrics.of s
  let lead := if m.newline then "\n" else ""
  match StringForm.choose m with
  | .literal => "'" ++ s ++ "'"
  | .multiLiteral => "'''" ++ lead ++ s ++ "'''"
  | .basic => "\"" ++ escapedBody false 0 s ++ "\""
  | .multiBasic => "\"\"\"" ++ lead ++ escapedBody true 2 s ++ "\"\"\""

/-- A key: bare when it can be, else a basic string when nothing in it needs escaping, else a
literal string when it can hold it, else an escaped basic string. -/
def keyText (k : String) : String :=
  if !k.isEmpty && k.toList.all bareKeyChar then k
  else
    let m := StringMetrics.of k
    if !m.control && !m.backslash && m.doubles = 0 && !m.newline then "\"" ++ k ++ "\""
    else if !m.control && m.singles = 0 && !m.newline then "'" ++ k ++ "'"
    else "\"" ++ escapedBody false 0 k ++ "\""

def arrayText (items : List String) : String :=
  if items.length ≤ 1 then "[" ++ String.intercalate ", " items ++ "]"
  else "[" ++ String.join (items.map fun t => "\n    " ++ t ++ ",") ++ "\n]"

def inlineText (items : List String) : String :=
  if items.isEmpty then "\x7b\x7d" else "\x7b " ++ String.intercalate ", " items ++ " \x7d"

mutual
def valueText : Value → String
  | .str s => stringText s
  | .int i => toString i
  | .float x => floatText x
  | .bool b => if b then "true" else "false"
  | .datetime t => t
  | .array xs => arrayText (itemTexts xs)
  | .inline kvs _ => inlineText (memberTexts kvs)
  | .table kvs _ _ => inlineText (memberTexts kvs)
  | .tables ts => arrayText (itemTexts ts)

def itemTexts : List Value → List String
  | [] => []
  | x :: rest => valueText x :: itemTexts rest

def memberTexts : List (String × Value) → List String
  | [] => []
  | (k, v) :: rest => (keyText k ++ " = " ++ valueText v) :: memberTexts rest
end

/-- A document of sections: the root's own keys first, then each section under its header. Each
section holds plain keys only. -/
def render (rootKeys : List (String × Value)) (sections : List (String × List (String × Value))) : String :=
  let line (kv : String × Value) := keyText kv.1 ++ " = " ++ valueText kv.2 ++ "\n"
  let head := String.join (rootKeys.map line)
  let (body, _) := sections.foldl (fun (acc : String × Bool) (name, kvs) =>
    let sep := if acc.2 then "" else "\n"
    (acc.1 ++ sep ++ "[" ++ keyText name ++ "]\n" ++ String.join (kvs.map line), false))
    ("", rootKeys.isEmpty)
  head ++ body

end Glitch.Toml
