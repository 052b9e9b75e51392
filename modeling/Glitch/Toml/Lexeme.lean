import Glitch.Toml.Value
import Glitch.Float.Decimal
/-!
The lexical pieces of TOML: blanks and comments, keys, strings in their four forms, integers in
four bases, floats and date-times.

Each reader takes the characters from the start of a piece and answers the piece with the
characters after it.
-/
namespace Glitch.Toml

def isBlank (c : Char) : Bool := c = ' ' || c = '\t'

/-- A character allowed in a comment: tab, printable ASCII, and anything beyond ASCII. -/
def commentChar (c : Char) : Bool := c = '\t' || (' ' ≤ c && c ≤ '~') || 0x80 ≤ c.toNat

def bareKeyChar (c : Char) : Bool :=
  ('A' ≤ c && c ≤ 'Z') || ('a' ≤ c && c ≤ 'z') || ('0' ≤ c && c ≤ '9') || c = '_' || c = '-'

def basicChar (c : Char) : Bool := c = '\t' || (' ' ≤ c && c ≤ '~' && c ≠ '"' && c ≠ '\\') || 0x80 ≤ c.toNat

def literalChar (c : Char) : Bool := c = '\t' || (' ' ≤ c && c ≤ '~' && c ≠ '\'') || 0x80 ≤ c.toNat

def hexDigitValue? (c : Char) : Option Nat :=
  if '0' ≤ c && c ≤ '9' then some (c.toNat - 48)
  else if 'a' ≤ c && c ≤ 'f' then some (c.toNat - 87)
  else if 'A' ≤ c && c ≤ 'F' then some (c.toNat - 55)
  else none

/-- The rest after a comment, if one starts here; its characters must be allowed. -/
def skipComment (cs : List Char) : Result (List Char) :=
  match cs with
  | '#' :: rest =>
    let body := rest.takeWhile (fun c => c ≠ '\n' && c ≠ '\r')
    if body.all commentChar then .ok (rest.drop body.length) else fail "invalid character in comment"
  | _ => .ok cs

def lineBreak? (cs : List Char) : Option (List Char) :=
  match cs with
  | '\n' :: rest => some rest
  | '\r' :: '\n' :: rest => some rest
  | _ => none

/-- The character of a code point given by an escape; surrogates and values past the last code
point are refused. -/
def scalarOf (n : Nat) : Result Char :=
  if n < 0xD800 || (0xE000 ≤ n && n ≤ 0x10FFFF) then .ok (Char.ofNat n) else fail "invalid unicode escape"

def escape (cs : List Char) : Result (Char × List Char) :=
  let hexN (n : Nat) (r : List Char) : Result (Char × List Char) :=
    let ds := r.take n
    match ds.mapM hexDigitValue? with
    | some vs =>
      if ds.length = n then do
        let c ← scalarOf (vs.foldl (fun acc v => acc * 16 + v) 0)
        pure (c, r.drop n)
      else fail "short unicode escape"
    | none => fail "invalid unicode escape"
  match cs with
  | 'b' :: r => .ok ('\x08', r)
  | 't' :: r => .ok ('\t', r)
  | 'n' :: r => .ok ('\n', r)
  | 'f' :: r => .ok ('\x0c', r)
  | 'r' :: r => .ok ('\r', r)
  | '"' :: r => .ok ('"', r)
  | '\\' :: r => .ok ('\\', r)
  | 'u' :: r => hexN 4 r
  | 'U' :: r => hexN 8 r
  | _ => fail "invalid escape"

/-- The rest of a one-line basic string after its opening quote: the text and what follows the
closing quote. -/
def basicBody : Nat → List Char → List Char → Result (String × List Char)
  | 0, _, _ => fail "unterminated string"
  | fuel + 1, acc, cs =>
    match cs with
    | [] => fail "unterminated string"
    | '"' :: rest => .ok (String.ofList acc.reverse, rest)
    | '\\' :: rest => do
      let (c, rest) ← escape rest
      basicBody fuel (c :: acc) rest
    | c :: rest => if basicChar c then basicBody fuel (c :: acc) rest else fail "invalid character in string"

def literalBody (cs : List Char) : Result (String × List Char) :=
  let body := cs.takeWhile literalChar
  match cs.drop body.length with
  | '\'' :: rest => .ok (String.ofList body, rest)
  | _ => fail "unterminated literal string"

/-- Drop one line break right after the opening delimiter of a multi-line string. -/
def dropFirstBreak (cs : List Char) : List Char := (lineBreak? cs).getD cs

def skipFolded : Nat → List Char → List Char
  | 0, cs => cs
  | fuel + 1, cs =>
    match cs with
    | c :: rest => if isBlank c then skipFolded fuel rest else
        match lineBreak? cs with
        | some rest => skipFolded fuel rest
        | none => cs
    | [] => []

def endsLine (cs : List Char) : Bool := (lineBreak? (cs.dropWhile isBlank)).isSome

/-- The rest of a multi-line string after its opening delimiter. `quote` is the delimiter's
character; a basic string (`escapes`) reads escapes and line-ending backslashes. Up to two quote
characters may stand right before the closing three. -/
def multiBody (quote : Char) (escapes : Bool) : Nat → List Char → List Char → Result (String × List Char)
  | 0, _, _ => fail "unterminated string"
  | fuel + 1, acc, cs =>
    match cs with
    | [] => fail "unterminated string"
    | c :: rest =>
      if c = quote then
        let q := (cs.takeWhile (· = quote)).length
        if q < 3 then multiBody quote escapes fuel (List.replicate q quote ++ acc) (cs.drop q)
        else if q ≤ 5 then .ok (String.ofList (List.replicate (q - 3) quote ++ acc).reverse, cs.drop q)
        else fail "too many quotes"
      else if escapes && c = '\\' then
        if endsLine rest then multiBody quote escapes fuel acc (skipFolded (rest.length + 1) rest)
        else do
          let (e, rest) ← escape rest
          multiBody quote escapes fuel (e :: acc) rest
      else match lineBreak? cs with
        | some rest => multiBody quote escapes fuel ('\n' :: acc) rest
        | none =>
          let ok := if escapes then basicChar c else literalChar c
          if ok then multiBody quote escapes fuel (c :: acc) rest else fail "invalid character in string"

def readString (cs : List Char) : Result (String × List Char) :=
  match cs with
  | '"' :: '"' :: '"' :: rest =>
    let body := dropFirstBreak rest
    multiBody '"' true (body.length + 1) [] body
  | '"' :: rest => basicBody (rest.length + 1) [] rest
  | '\'' :: '\'' :: '\'' :: rest =>
    let body := dropFirstBreak rest
    multiBody '\'' false (body.length + 1) [] body
  | '\'' :: rest => literalBody rest
  | _ => fail "expected a string"

def simpleKey (cs : List Char) : Result (String × List Char) :=
  match cs with
  | '"' :: rest => basicBody (rest.length + 1) [] rest
  | '\'' :: rest => literalBody rest
  | _ =>
    let k := cs.takeWhile bareKeyChar
    if k.isEmpty then fail "expected a key" else .ok (String.ofList k, cs.drop k.length)

/-- A dotted key: keys joined by dots, with blanks allowed around each dot. -/
def dottedKey : Nat → List String → List Char → Result (List String × List Char)
  | 0, _, _ => fail "key too long"
  | fuel + 1, acc, cs => do
    let (k, rest) ← simpleKey cs
    let after := rest.dropWhile isBlank
    match after with
    | '.' :: more => dottedKey fuel (k :: acc) (more.dropWhile isBlank)
    | _ => pure ((k :: acc).reverse, rest)

/-- Digits with single underscores between them: the digits, and the rest. The run must start
with a digit accepted by `digit`. -/
def digitRun (digit : Char → Bool) : Nat → List Char → List Char → Option (List Char × List Char)
  | 0, _, _ => none
  | fuel + 1, acc, cs =>
    match cs with
    | '_' :: d :: rest => if digit d && !acc.isEmpty then digitRun digit fuel (d :: acc) rest else
        if acc.isEmpty then none else some (acc.reverse, cs)
    | d :: rest => if digit d then digitRun digit fuel (d :: acc) rest else
        if acc.isEmpty then none else some (acc.reverse, cs)
    | [] => if acc.isEmpty then none else some (acc.reverse, [])

def decimalRun (cs : List Char) : Option (List Char × List Char) := digitRun Char.isDigit (cs.length + 1) [] cs

def digitsIn (base : Nat) (ds : List Char) : Nat :=
  ds.foldl (fun acc c => acc * base + ((hexDigitValue? c).getD 0)) 0

def int64Max : Int := Nat.pow 2 63 - 1

/-- A number from its whole token: an integer in one of four bases, a float, or `inf` or `nan`
with an optional sign. Integers must fit in 64 signed bits. A decimal float that overflows to
positive infinity is refused. -/
def readNumber (tok : List Char) : Result Value :=
  let (neg, signed, body) := match tok with
    | '+' :: r => (false, true, r)
    | '-' :: r => (true, true, r)
    | r => (false, false, r)
  let radix (base : Nat) (digit : Char → Bool) (r : List Char) : Result Value :=
    match digitRun digit (r.length + 1) [] r with
    | some (ds, []) =>
      let v := digitsIn base ds
      if (v : Int) ≤ int64Max then .ok (.int v) else fail "integer out of range"
    | _ => fail "invalid integer"
  if body = ['i', 'n', 'f'] then .ok (.float (Binary.inf neg))
  else if body = ['n', 'a', 'n'] then .ok (.float (if neg then Binary.nan.neg else Binary.nan))
  else match signed, body with
    | false, '0' :: 'x' :: r => radix 16 (fun c => (hexDigitValue? c).isSome) r
    | false, '0' :: 'o' :: r => radix 8 (fun c => '0' ≤ c && c ≤ '7') r
    | false, '0' :: 'b' :: r => radix 2 (fun c => c = '0' || c = '1') r
    | _, _ =>
      match decimalRun body with
      | none => fail "invalid number"
      | some (whole, rest) =>
        if whole.length > 1 && whole.head? = some '0' then fail "leading zero"
        else
          let frac : Result (Option (List Char) × List Char) := match rest with
            | '.' :: r => match decimalRun r with
              | some (f, r') => .ok (some f, r')
              | none => fail "invalid fraction"
            | r => .ok (none, r)
          match frac with
          | .error e => .error e
          | .ok (frac, rest) =>
            let expo : Result (Option (List Char) × List Char) := match rest with
              | e :: r =>
                if e = 'e' || e = 'E' then
                  let (sign, r) := match r with
                    | '+' :: r' => (['+'], r')
                    | '-' :: r' => (['-'], r')
                    | r' => ([], r')
                  match decimalRun r with
                  | some (x, r') => .ok (some (sign ++ x), r')
                  | none => fail "invalid exponent"
                else .ok (none, e :: r)
              | [] => .ok (none, [])
            match expo with
            | .error e => .error e
            | .ok (_, _ :: _) => fail "invalid number"
            | .ok (none, []) =>
              match frac with
              | none =>
                let v : Int := digitsIn 10 whole
                let v := if neg then -v else v
                if -(Nat.pow 2 63) ≤ v && v ≤ int64Max then .ok (.int v) else fail "integer out of range"
              | some f => floatOf neg whole (some f) none
            | .ok (some x, []) => floatOf neg whole frac (some x)
where
  /-- The float of a decimal text, correctly rounded; positive overflow is refused. -/
  floatOf (neg : Bool) (whole : List Char) (frac exp : Option (List Char)) : Result Value :=
    let text := (if neg then "-" else "") ++ String.ofList whole ++
      (match frac with | some f => "." ++ String.ofList f | none => "") ++
      (match exp with | some x => "e" ++ String.ofList x | none => "")
    match (Binary.ofText text : Except FloatTextError F64) with
    | .ok x => if x.isInf && !x.negBit then fail "float overflow" else .ok (.float x)
    | .error _ => fail "invalid float"

def daysInMonth (year month : Nat) : Nat :=
  if month = 2 then (if year % 4 = 0 && (year % 100 ≠ 0 || year % 400 = 0) then 29 else 28)
  else if month = 4 || month = 6 || month = 9 || month = 11 then 30 else 31

def fixedDigits (n : Nat) (cs : List Char) : Option (Nat × List Char) :=
  let ds := cs.take n
  if ds.length = n && ds.all Char.isDigit then some (digitsIn 10 ds, cs.drop n) else none

def readDate (cs : List Char) : Option (List Char) := do
  let (y, r) ← fixedDigits 4 cs
  let r ← match r with | '-' :: r => some r | _ => none
  let (m, r) ← fixedDigits 2 r
  let r ← match r with | '-' :: r => some r | _ => none
  let (d, r) ← fixedDigits 2 r
  if 1 ≤ m && m ≤ 12 && 1 ≤ d && d ≤ daysInMonth y m then some r else none

def readTime (cs : List Char) : Option (List Char) := do
  let (h, r) ← fixedDigits 2 cs
  let r ← match r with | ':' :: r => some r | _ => none
  let (m, r) ← fixedDigits 2 r
  let r ← match r with | ':' :: r => some r | _ => none
  let (s, r) ← fixedDigits 2 r
  if h ≤ 23 && m ≤ 59 && s ≤ 60 then
    match r with
    | '.' :: r' =>
      let ds := r'.takeWhile Char.isDigit
      if ds.isEmpty then none else some (r'.drop ds.length)
    | _ => some r
  else none

def readOffset (cs : List Char) : Option (List Char) :=
  match cs with
  | 'Z' :: r => some r
  | 'z' :: r => some r
  | s :: r =>
    if s = '+' || s = '-' then do
      let (h, r) ← fixedDigits 2 r
      let r ← match r with | ':' :: r => some r | _ => none
      let (m, r) ← fixedDigits 2 r
      if h ≤ 23 && m ≤ 59 then some r else none
    else none
  | [] => none

/-- Whether a whole text is a date-time: an offset or local date-time, a local date, or a local
time. The date and time are joined by `T`, `t` or a space. -/
def isDatetime (cs : List Char) : Bool :=
  match readDate cs with
  | some [] => true
  | some (d :: r) =>
    if d = 'T' || d = 't' || d = ' ' then
      match readTime r with
      | some [] => true
      | some r' => (readOffset r' == some [])
      | none => false
    else false
  | none => readTime cs == some []

def tokenChar (c : Char) : Bool := c.isAlphanum || c = '_' || c = '+' || c = '-' || c = '.' || c = ':'

/-- A number, boolean or date-time starting here. A date followed by a space and a time is one
date-time. -/
def readScalar (cs : List Char) : Result (Value × List Char) :=
  let tok := cs.takeWhile tokenChar
  let rest := cs.drop tok.length
  let (tok, rest) := match rest with
    | ' ' :: a :: b :: ':' :: _ =>
      if a.isDigit && b.isDigit && (readDate tok == some []) then
        let more := rest.tail.takeWhile tokenChar
        (tok ++ ' ' :: more, rest.tail.drop more.length)
      else (tok, rest)
    | _ => (tok, rest)
  if tok = ['t', 'r', 'u', 'e'] then .ok (.bool true, rest)
  else if tok = ['f', 'a', 'l', 's', 'e'] then .ok (.bool false, rest)
  else if tok.isEmpty then fail "expected a value"
  else if isDatetime tok then .ok (.datetime (String.ofList tok), rest)
  else do
    let v ← readNumber tok
    pure (v, rest)

end Glitch.Toml
