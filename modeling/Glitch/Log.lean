import Glitch.Float.Decimal
/-!
Log lines: a level, a target naming the part of the library that wrote it, and a message
followed by `name=value` fields. Field values are written as for debugging: strings quoted with
escapes, numbers plain, binary32 and binary64 values in debugging text.
-/
namespace Glitch

/-- Severity of a log line, most severe first. -/
inductive Level where
  | error
  | warn
  | info
  | debug
  | trace
  deriving DecidableEq, Repr

namespace Level

def name : Level → String
  | .error => "ERROR"
  | .warn => "WARN"
  | .info => "INFO"
  | .debug => "DEBUG"
  | .trace => "TRACE"

def rank : Level → Nat
  | .error => 1
  | .warn => 2
  | .info => 3
  | .debug => 4
  | .trace => 5

end Level

/-- One log line. -/
structure LogLine where
  level : Level
  target : String
  message : String
  deriving DecidableEq, Repr

def LogLine.render (l : LogLine) : String := l.level.name ++ " " ++ l.target ++ ": " ++ l.message

def hexDigits (n : Nat) : String := String.ofList (Nat.toDigits 16 n)

/-- A character escaped for debugging text inside double quotes. -/
def escapeDebugChar (c : Char) : String :=
  if c = '"' then "\\\""
  else if c = '\\' then "\\\\"
  else if c = '\n' then "\\n"
  else if c = '\r' then "\\r"
  else if c = '\t' then "\\t"
  else if c = '\x00' then "\\0"
  else if c.toNat < 0x20 || c.toNat = 0x7f then "\\u" ++ "\x7b" ++ hexDigits c.toNat ++ "\x7d"
  else String.singleton c

def quoteDebug (s : String) : String :=
  "\"" ++ String.join (s.toList.map escapeDebugChar) ++ "\""

def withFields (message : String) (fields : List (String × String)) : String :=
  message ++ String.join (fields.map fun (k, v) => " " ++ k ++ "=" ++ v)

end Glitch
