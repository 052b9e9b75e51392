import Glitch.Float.Decimal
/-!
The JSON dialect of the toy video tools.

The tools read a file as UTF-8 text into values whose integers are exact, whose numbers with a
fraction or an exponent are binary64 (rounded once, infinite when too large), and whose strings
are UTF-16 code units, so that an escaped lone surrogate is kept. `NaN`, `Infinity` and
`-Infinity` read as numbers, an integer of more than 4300 digits is refused, and a later member
of an object replaces the value of an earlier one of the same name in its place. Blanks may
surround the value; anything else after it is refused.

They print values with `, ` between items and `: ` after names, every code unit outside printable
ASCII escaped as `\uXXXX` in lowercase hex, binary64 values in their shortest round-trip digits
in the style `CompactStyle.probeTool`, and non-finite ones as `NaN`, `Infinity` and `-Infinity`.

The tools also read values leniently as whole numbers (`ToolValue.whole?`), take exit statuses
from them (`ToolValue.exitStatus`), and read bytes from hex text (`ToolValue.hexBytes?`).
-/
namespace Glitch

/-- A value as the toy tools hold it. -/
inductive ToolValue where
  | null
  | bool (b : Bool)
  | int (i : Int)
  | float (x : F64)
  | str (units : List Nat)
  | arr (xs : List ToolValue)
  | obj (kvs : List (List Nat × ToolValue))
  deriving Inhabited

namespace ToolValue

def charUnits (c : Char) : List Nat :=
  let n := c.toNat
  if n < 0x10000 then [n]
  else
    let m := n - 0x10000
    [0xD800 + m / 0x400, 0xDC00 + m % 0x400]

def textUnits (s : String) : List Nat := s.toList.flatMap charUnits

def unitsText? : List Nat → Option String
  | [] => some ""
  | u :: rest =>
    if 0xD800 ≤ u && u < 0xDC00 then
      match rest with
      | v :: more =>
        if 0xDC00 ≤ v && v < 0xE000 then
          (unitsText? more).map fun t =>
            String.singleton (Char.ofNat (0x10000 + (u - 0xD800) * 0x400 + (v - 0xDC00))) ++ t
        else none
      | [] => none
    else if 0xDC00 ≤ u && u < 0xE000 then none
    else (unitsText? rest).map fun t => String.singleton (Char.ofNat u) ++ t

def isBlank (c : Char) : Bool := c == ' ' || c == '\t' || c == '\n' || c == '\r'

def skipBlank (cs : List Char) : List Char := cs.dropWhile isBlank

def hexDigit? (c : Char) : Option Nat :=
  if '0' ≤ c && c ≤ '9' then some (c.toNat - '0'.toNat)
  else if 'a' ≤ c && c ≤ 'f' then some (c.toNat - 'a'.toNat + 10)
  else if 'A' ≤ c && c ≤ 'F' then some (c.toNat - 'A'.toNat + 10)
  else none

def readHex4 : List Char → Option (Nat × List Char)
  | a :: b :: c :: d :: rest => do
    let v ← [a, b, c, d].foldlM (fun acc ch => (hexDigit? ch).map (acc * 16 + ·)) 0
    pure (v, rest)
  | _ => none

/-- The code units of a string after its opening quote (collected reversed in `acc`), and what
follows the closing quote. Control characters must be escaped. -/
def readString : Nat → List Char → List Nat → Option (List Nat × List Char)
  | 0, _, _ => none
  | _ + 1, [], _ => none
  | fuel + 1, c :: rest, acc =>
    if c == '"' then some (acc.reverse, rest)
    else if c == '\\' then
      match rest with
      | '"' :: r => readString fuel r (34 :: acc)
      | '\\' :: r => readString fuel r (92 :: acc)
      | '/' :: r => readString fuel r (47 :: acc)
      | 'b' :: r => readString fuel r (8 :: acc)
      | 'f' :: r => readString fuel r (12 :: acc)
      | 'n' :: r => readString fuel r (10 :: acc)
      | 'r' :: r => readString fuel r (13 :: acc)
      | 't' :: r => readString fuel r (9 :: acc)
      | 'u' :: r =>
        match readHex4 r with
        | some (v, r) => readString fuel r (v :: acc)
        | none => none
      | _ => none
    else if c.toNat < 0x20 then none
    else readString fuel rest ((charUnits c).reverse ++ acc)

def spanDigitChars (cs : List Char) : List Char × List Char :=
  (cs.takeWhile Char.isDigit, cs.dropWhile Char.isDigit)

/-- The exponent part `e`, an optional sign and digits, with what follows; nothing when no digit
follows, and then the exponent is not part of the number. -/
def exponentPart (cs : List Char) : List Char × List Char :=
  match cs with
  | e :: r =>
    if e == 'e' || e == 'E' then
      let (sign, r') := match r with
        | '+' :: x => (['+'], x)
        | '-' :: x => (['-'], x)
        | x => ([], x)
      let (ds, after) := spanDigitChars r'
      if ds.isEmpty then ([], cs) else (e :: sign ++ ds, after)
    else ([], cs)
  | [] => ([], cs)

def integerDigitLimit : Nat := 4300

/-- Read a number: an optional minus, then `0` or digits not starting with `0`, then a point
with digits and an exponent, each only when digits follow. With neither it is an integer. -/
def readNumber (cs : List Char) : Option (ToolValue × List Char) :=
  let (neg, r) := match cs with
    | '-' :: r => (true, r)
    | r => (false, r)
  let (intDigits, r) := match r with
    | '0' :: r => (['0'], r)
    | r => spanDigitChars r
  if intDigits.isEmpty then none
  else
    let (frac, r) := match r with
      | '.' :: d :: r' =>
        if d.isDigit then
          let (ds, after) := spanDigitChars r'
          ('.' :: d :: ds, after)
        else ([], r)
      | _ => ([], r)
    let (expo, r) := exponentPart r
    if frac.isEmpty && expo.isEmpty then
      if integerDigitLimit < intDigits.length then none
      else
        let v : Int := digitsValue intDigits
        some (.int (if neg then -v else v), r)
    else
      let text := (if neg then "-" else "") ++ String.ofList (intDigits ++ frac ++ expo)
      match (Binary.ofText text : Except FloatTextError F64) with
      | .ok x => some (.float x, r)
      | .error _ => none

/-- Set a member: replace the value of a member of that name in its place, else add it last. -/
def setMember (kvs : List (List Nat × ToolValue)) (k : List Nat) (v : ToolValue) :
    List (List Nat × ToolValue) :=
  if kvs.any (·.1 == k) then kvs.map fun (k', v') => if k' == k then (k', v) else (k', v')
  else kvs ++ [(k, v)]

mutual
/-- Read a value at the start of the text, and what follows it. `fuel` bounds the steps. -/
def readValue : Nat → List Char → Option (ToolValue × List Char)
  | 0, _ => none
  | fuel + 1, cs =>
    match cs with
    | '"' :: rest => (readString (rest.length + 1) rest []).map fun (u, r) => (.str u, r)
    | '{' :: rest =>
      match skipBlank rest with
      | '}' :: r => some (.obj [], r)
      | r => readMembers fuel r []
    | '[' :: rest =>
      match skipBlank rest with
      | ']' :: r => some (.arr [], r)
      | r => readItems fuel r []
    | 'n' :: 'u' :: 'l' :: 'l' :: r => some (.null, r)
    | 't' :: 'r' :: 'u' :: 'e' :: r => some (.bool true, r)
    | 'f' :: 'a' :: 'l' :: 's' :: 'e' :: r => some (.bool false, r)
    | 'N' :: 'a' :: 'N' :: r => some (.float Binary.nan, r)
    | 'I' :: 'n' :: 'f' :: 'i' :: 'n' :: 'i' :: 't' :: 'y' :: r => some (.float (Binary.inf false), r)
    | '-' :: 'I' :: 'n' :: 'f' :: 'i' :: 'n' :: 'i' :: 't' :: 'y' :: r => some (.float (Binary.inf true), r)
    | _ => readNumber cs

/-- Read the items of an array from its first item on (collected reversed in `acc`). -/
def readItems : Nat → List Char → List ToolValue → Option (ToolValue × List Char)
  | 0, _, _ => none
  | fuel + 1, cs, acc =>
    match readValue fuel cs with
    | none => none
    | some (v, r) =>
      match skipBlank r with
      | ']' :: r => some (.arr (v :: acc).reverse, r)
      | ',' :: r => readItems fuel (skipBlank r) (v :: acc)
      | _ => none

def readMembers : Nat → List Char → List (List Nat × ToolValue) → Option (ToolValue × List Char)
  | 0, _, _ => none
  | fuel + 1, cs, acc =>
    match cs with
    | '"' :: rest =>
      match readString (rest.length + 1) rest [] with
      | none => none
      | some (k, r) =>
        match skipBlank r with
        | ':' :: r =>
          match readValue fuel (skipBlank r) with
          | none => none
          | some (v, r) =>
            let acc := setMember acc k v
            match skipBlank r with
            | '}' :: r => some (.obj acc, r)
            | ',' :: r => readMembers fuel (skipBlank r) acc
            | _ => none
        | _ => none
    | _ => none
end

def read? (text : String) : Option ToolValue :=
  let cs := skipBlank text.toList
  match readValue (2 * cs.length + 2) cs with
  | some (v, rest) => if (skipBlank rest).isEmpty then some v else none
  | none => none

def hex4Text (u : Nat) : String :=
  let digit (n : Nat) : Char := if n < 10 then Char.ofNat (48 + n) else Char.ofNat (87 + n)
  String.ofList [digit (u / 4096 % 16), digit (u / 256 % 16), digit (u / 16 % 16), digit (u % 16)]

def unitText (u : Nat) : String :=
  if u == 34 then "\\\""
  else if u == 92 then "\\\\"
  else if u == 10 then "\\n"
  else if u == 13 then "\\r"
  else if u == 9 then "\\t"
  else if u == 8 then "\\b"
  else if u == 12 then "\\f"
  else if 32 ≤ u && u < 127 then String.singleton (Char.ofNat u)
  else "\\u" ++ hex4Text u

def quote (units : List Nat) : String := "\"" ++ String.join (units.map unitText) ++ "\""

def floatText (x : F64) : String :=
  if x.isNaN then "NaN"
  else if x.isInf then (if x.negBit then "-Infinity" else "Infinity")
  else (x.toCompactText? CompactStyle.probeTool).getD "NaN"

mutual
def render : ToolValue → String
  | .null => "null"
  | .bool b => if b then "true" else "false"
  | .int i => toString i
  | .float x => floatText x
  | .str u => quote u
  | .arr xs => "[" ++ ", ".intercalate (renderItems xs) ++ "]"
  | .obj kvs => "\x7b" ++ ", ".intercalate (renderMembers kvs) ++ "\x7d"

def renderItems : List ToolValue → List String
  | [] => []
  | x :: xs => render x :: renderItems xs

def renderMembers : List (List Nat × ToolValue) → List String
  | [] => []
  | (k, v) :: rest => (quote k ++ ": " ++ render v) :: renderMembers rest
end

def member (kvs : List (List Nat × ToolValue)) (name : String) : Option ToolValue :=
  kvs.lookup (textUnits name)

/-- Is it a blank around a whole number written as text: ASCII controls 9 to 13 and 28 to 31,
the space, and the Unicode spaces and line and paragraph separators. -/
def isSpaceChar (c : Char) : Bool :=
  let n := c.toNat
  (9 ≤ n && n ≤ 13) || (28 ≤ n && n ≤ 32) || n == 0x85 || n == 0xA0 || n == 0x1680 ||
    (0x2000 ≤ n && n ≤ 0x200A) || n == 0x2028 || n == 0x2029 || n == 0x202F || n == 0x205F ||
    n == 0x3000

def underscoredDigits? : List Char → Option (List Char)
  | [] => none
  | c :: rest =>
    if !c.isDigit then none
    else
      match rest with
      | [] => some [c]
      | '_' :: more => (underscoredDigits? more).map (c :: ·)
      | more => (underscoredDigits? more).map (c :: ·)

def wholeOfText? (s : String) : Option Int :=
  let cs := ((s.toList.dropWhile isSpaceChar).reverse.dropWhile isSpaceChar).reverse
  let (neg, body) := match cs with
    | '-' :: r => (true, r)
    | '+' :: r => (false, r)
    | r => (false, r)
  (underscoredDigits? body).map fun ds =>
    let v : Int := digitsValue ds
    if neg then -v else v

/-- A value read as a whole number: booleans are 0 and 1, finite floats drop their fraction, and
text must spell a whole number; nothing else is one. -/
def whole? : ToolValue → Option Int
  | .bool b => some (if b then 1 else 0)
  | .int i => some i
  | .float x => if x.isFinite then some (x.toIntClamped (-(Nat.pow 2 1100 : Int)) (Nat.pow 2 1100)) else none
  | .str u => (unitsText? u).bind wholeOfText?
  | _ => none

/-- The exit status a tool ends with when told to exit with a value: the whole number modulo
256, 255 for one outside the signed 64-bit range, and 1 when the value is not a whole number.
No value means success. -/
def exitStatus : Option ToolValue → Nat
  | none => 0
  | some v =>
    match v.whole? with
    | none => 1
    | some n =>
      if -(Nat.pow 2 63 : Int) ≤ n && n < (Nat.pow 2 63 : Int) then (n % 256).toNat else 255

/-- Bytes from hex text: two hex digits per byte, ASCII blanks allowed between bytes; `none` for
anything else, text with a character outside ASCII included. -/
def hexBytes? (v : ToolValue) : Option ByteArray :=
  match v with
  | .str u =>
    if u.any (· ≥ 128) then none
    else
      let isSpace (c : Nat) : Bool := c == 32 || (9 ≤ c && c ≤ 13)
      let digit (c : Nat) : Option Nat := hexDigit? (Char.ofNat c)
      let rec go : List Nat → Array UInt8 → Option (Array UInt8)
        | [], acc => some acc
        | a :: rest, acc =>
          if isSpace a then go rest acc
          else
            match rest with
            | b :: more =>
              match digit a, digit b with
              | some x, some y => go more (acc.push (x * 16 + y).toUInt8)
              | _, _ => none
            | [] => none
      (go u #[]).map fun a => ⟨a⟩
  | _ => none

end ToolValue

end Glitch
