/-!
Points in time as seconds and nanoseconds since 1970-01-01T00:00:00 UTC, with the RFC 3339 text
used for export timestamps.

Reading accepts a date, a `T`, `t` or space separator, a time with an optional fraction (only
the first nine digits count), and an offset (`Z`, `UTC`, or `±hh:mm`, `±hhmm`, `±hh mm`), with
Unicode blanks allowed before each number, around the offset and at the end. The point is then
moved to UTC. Divisions here are floored (`/` on `Int` rounds down for a positive divisor), so
the day arithmetic holds before the epoch too. Writing always uses UTC with `Z`, and writes the
fraction with 3, 6 or 9 digits, the fewest that are exact, or not at all.
-/
namespace Glitch

/-- A point in time: whole seconds since the epoch and the nanoseconds after them. -/
structure Timestamp where
  seconds : Int
  nanos : Nat
  deriving DecidableEq, Repr

namespace Timestamp

def daysOfCivil (y : Int) (m d : Nat) : Int :=
  let y := if m ≤ 2 then y - 1 else y
  let era := y / 400
  let yoe := y - era * 400
  let mp : Int := if m > 2 then (m : Int) - 3 else (m : Int) + 9
  let doy := (153 * mp + 2) / 5 + d - 1
  let doe := yoe * 365 + yoe / 4 - yoe / 100 + doy
  era * 146097 + doe - 719468

def civilOfDays (z : Int) : Int × Nat × Nat :=
  let z := z + 719468
  let era := z / 146097
  let doe := z - era * 146097
  let yoe := (doe - doe / 1460 + doe / 36524 - doe / 146096) / 365
  let y := yoe + era * 400
  let doy := doe - (365 * yoe + yoe / 4 - yoe / 100)
  let mp := (5 * doy + 2) / 153
  let d := doy - (153 * mp + 2) / 5 + 1
  let m := if mp < 10 then mp + 3 else mp - 9
  ((if m ≤ 2 then y + 1 else y), m.toNat, d.toNat)

def isLeap (y : Int) : Bool := (y % 4 == 0 && y % 100 != 0) || y % 400 == 0

def monthDays (y : Int) (m : Nat) : Nat :=
  if m == 2 then (if isLeap y then 29 else 28)
  else if m == 4 || m == 6 || m == 9 || m == 11 then 30 else 31

def minYear : Int := -262143

def maxYear : Int := 262142

/-- Why a text is not a timestamp. -/
inductive TextError where
  | outOfRange
  | impossible
  | invalid
  | tooShort
  | tooLong
  deriving DecidableEq, Repr

def TextError.message : TextError → String
  | .outOfRange => "input is out of range"
  | .impossible => "no possible date and time matching input"
  | .invalid => "input contains invalid characters"
  | .tooShort => "premature end of input"
  | .tooLong => "trailing input"

def isBlank (c : Char) : Bool :=
  let n := c.toNat
  (9 ≤ n && n ≤ 13) || n == 32 || n == 0x85 || n == 0xA0 || n == 0x1680 ||
    (0x2000 ≤ n && n ≤ 0x200A) || n == 0x2028 || n == 0x2029 || n == 0x202F ||
    n == 0x205F || n == 0x3000

def skipBlanks (cs : List Char) : List Char := cs.dropWhile isBlank

/-- One to `most` ASCII digits as a number. A run worth more than `2^63 - 1` is out of range,
whatever follows it. -/
def number (cs : List Char) (most : Nat) : Except TextError (Nat × List Char) :=
  match cs with
  | [] => .error .tooShort
  | _ =>
    let ds := (cs.take most).takeWhile Char.isDigit
    if ds.isEmpty then .error .invalid
    else
      let v := ds.foldl (fun acc c => acc * 10 + (c.toNat - 48)) 0
      if Nat.pow 2 63 ≤ v then .error .outOfRange
      else .ok (v, cs.drop ds.length)

def literal (c : Char) (cs : List Char) : Except TextError (Unit × List Char) :=
  match cs with
  | [] => .error .tooShort
  | x :: rest => if x == c then .ok ((), rest) else .error .invalid

def inRange (v lo hi : Nat) : Except TextError Nat :=
  if lo ≤ v && v ≤ hi then .ok v else .error .outOfRange

/-- A year: up to four digits, or a sign and any number of digits; it must fit in 32 bits. -/
def scanYear (cs : List Char) : Except TextError (Int × List Char) := do
  let (y, cs) ← match cs with
    | '-' :: rest => (fun (p : Nat × List Char) => (-(p.1 : Int), p.2)) <$> number rest rest.length
    | '+' :: rest => (fun (p : Nat × List Char) => ((p.1 : Int), p.2)) <$> number rest rest.length
    | _ => (fun (p : Nat × List Char) => ((p.1 : Int), p.2)) <$> number cs 4
  if y < -(Nat.pow 2 31 : Int) || (Nat.pow 2 31 : Int) ≤ y then .error .outOfRange
  else pure (y, cs)

def scanDate (cs : List Char) : Except TextError ((Int × Nat × Nat) × List Char) := do
  let (y, cs) ← scanYear (skipBlanks cs)
  let ((), cs) ← literal '-' (skipBlanks cs)
  let (m, cs) ← number (skipBlanks cs) 2
  let m ← inRange m 1 12
  let ((), cs) ← literal '-' (skipBlanks cs)
  let (d, cs) ← number (skipBlanks cs) 2
  let d ← inRange d 1 31
  pure ((y, m, d), cs)

/-- Hours, minutes, seconds and nanoseconds, and the blanks after them skipped. The fraction
must follow the seconds at once; only its first nine digits count. -/
def scanTime (cs : List Char) : Except TextError ((Nat × Nat × Nat × Nat) × List Char) := do
  let (h, cs) ← number (skipBlanks cs) 2
  let h ← inRange h 0 23
  let ((), cs) ← literal ':' (skipBlanks cs)
  let (mi, cs) ← number (skipBlanks cs) 2
  let mi ← inRange mi 0 59
  let ((), cs) ← literal ':' (skipBlanks cs)
  let (s, cs) ← number (skipBlanks cs) 2
  let s ← inRange s 0 60
  match cs with
  | '.' :: rest =>
    let (v, rest') ← number rest 9
    let used := rest.length - rest'.length
    pure ((h, mi, s, v * Nat.pow 10 (9 - used)), skipBlanks (rest'.dropWhile Char.isDigit))
  | _ => pure ((h, mi, s, 0), skipBlanks cs)

/-- The first two bytes of a text read as two decimal digits: `none` when either is not one,
too short when the text has fewer than two bytes. -/
def twoDigits (cs : List Char) : Except TextError (Option (Nat × Nat)) :=
  match cs with
  | [] => .error .tooShort
  | [c] => if c.toNat < 128 then .error .tooShort else .ok none
  | a :: b :: _ => .ok (if a.isDigit && b.isDigit then some (a.toNat - 48, b.toNat - 48) else none)

/-- The offset from UTC in seconds: `UTC` in any case, `Z`, or a sign (`+`, `-` or the minus
sign) with two-digit hours and minutes, which colons or blanks may separate. -/
def scanOffset (cs : List Char) : Except TextError (Int × List Char) :=
  match cs with
  | a :: b :: c :: rest =>
    if a.toUpper == 'U' && b.toUpper == 'T' && c.toUpper == 'C' then .ok (0, rest)
    else zoned cs
  | _ => zoned cs
where
  zoned (cs : List Char) : Except TextError (Int × List Char) := do
    let (neg, cs) ← match cs with
      | 'Z' :: rest | 'z' :: rest => return (0, rest)
      | '+' :: rest => pure (false, rest)
      | '-' :: rest => pure (true, rest)
      | '−' :: rest => pure (true, rest)
      | [] => .error .tooShort
      | _ => .error .invalid
    let hours ← match ← twoDigits cs with
      | some (h1, h2) => pure (h1 * 10 + h2)
      | none => .error .invalid
    let cs := (cs.drop 2).dropWhile (fun c => c == ':' || isBlank c)
    let minutes ← match ← twoDigits cs with
      | some (m1, m2) => if m1 ≤ 5 then pure (m1 * 10 + m2) else .error .outOfRange
      | none => .error .invalid
    let secs : Int := hours * 3600 + minutes * 60
    pure (if neg then -secs else secs, cs.drop 2)

/-- Read an RFC 3339 timestamp and move it to UTC. After the parse, the date must exist in the
calendar, the offset must be less than a day, and the point in UTC must still fall on a day of
the calendar. -/
def ofText (text : String) : Except TextError Timestamp := do
  let ((y, m, d), cs) ← scanDate text.toList
  let cs ← match cs with
    | 'T' :: rest | 't' :: rest | ' ' :: rest => pure rest
    | [] => .error .tooShort
    | _ => .error .invalid
  let ((h, mi, s, ns), cs) ← scanTime cs
  let (off, cs) ← scanOffset (skipBlanks cs)
  if !(skipBlanks cs).isEmpty then .error .tooLong
  else if y < minYear || maxYear < y || monthDays y m < d then .error .outOfRange
  else if 86400 ≤ off.natAbs then .error .outOfRange
  else
    let secs := daysOfCivil y m d * 86400 + (h * 3600 + mi * 60 + min s 59 : Nat) - off
    let day := secs / 86400
    if day < daysOfCivil minYear 1 1 || daysOfCivil maxYear 12 31 < day then .error .impossible
    else pure ⟨secs, if s == 60 then ns + 1000000000 else ns⟩

def padded (width n : Nat) : String :=
  let s := toString n
  String.ofList (List.replicate (width - s.length) '0') ++ s

def fractionText (ns : Nat) : String :=
  if ns == 0 then ""
  else if ns % 1000000 == 0 then "." ++ padded 3 (ns / 1000000)
  else if ns % 1000 == 0 then "." ++ padded 6 (ns / 1000)
  else "." ++ padded 9 ns

def yearText (y : Int) : String :=
  if 0 ≤ y && y ≤ 9999 then padded 4 y.toNat
  else if y < 0 then "-" ++ padded 4 (-y).toNat
  else "+" ++ padded 4 y.toNat

def toText (t : Timestamp) : String :=
  let days := t.seconds / 86400
  let secs := (t.seconds % 86400).toNat
  let (y, m, d) := civilOfDays days
  let leap := 1000000000 ≤ t.nanos
  let s := secs % 60 + (if leap then 1 else 0)
  let ns := if leap then t.nanos - 1000000000 else t.nanos
  yearText y ++ "-" ++ padded 2 m ++ "-" ++ padded 2 d ++ "T" ++ padded 2 (secs / 3600) ++ ":" ++
    padded 2 (secs / 60 % 60) ++ ":" ++ padded 2 s ++ fractionText ns ++ "Z"

end Timestamp

end Glitch
