import Glitch.Json.Value
/-!
Reading JSON text into a tree that remembers where each value starts and stops (byte offsets),
so that a later typed reading can report positions.

A syntax error does not throw the tree away: the reader keeps what it read, with the error as a
`bad` leaf (or as the tail of the array or object it cut short) at the place it was found. A typed
reading walks the tree in document order and meets the error exactly where a reader that decodes
while it scans would meet it, so a type error earlier in the text wins over a syntax error later.

Errors carry a message and a byte offset. A position is written `line L column C`, where `L`
counts lines from 1 and `C` counts the bytes of the line up to the offset. An error found on a
character not yet consumed points past that character.

Integers become 64-bit numbers when they fit and binary64 values otherwise; numbers with a
fraction or an exponent become binary64, and one too large for binary64 is an error. The
binary64 value is computed from a 64-bit significand and one scaling by a power of ten, so it
can differ from the nearest value in the last place. Nesting 128 or more arrays or objects deep
is refused.

A reading that does not know an object member only passes over its value (`JsonReader.passValue`):
it checks the value's form but takes no number, no escape and no depth into account. So when an
object member's value fails, the reader still reads on after it wherever passing over it
succeeds; a reading that knows the member meets the error first, and one that does not may go
on.
-/
namespace Glitch

/-- A reading failure: the message and the byte offset it points at. -/
structure ReadError where
  message : String
  offset : Nat
  deriving Inhabited

/-- A value as read, with the byte offsets of its first character and just past its last.
`bad` marks a syntax error met in a value starting at `start`; an array or object cut short by a
syntax error keeps the items read so far and the error as its `tail`. -/
inductive Node where
  | bad (e : ReadError) (start : Nat)
  | null (start stop : Nat)
  | bool (b : Bool) (start stop : Nat)
  | num (n : JsonNumber) (start stop : Nat)
  | str (s : String) (start stop : Nat)
  | arr (xs : List Node) (tail : Option ReadError) (start stop : Nat)
  | obj (kvs : List (String × Node)) (tail : Option ReadError) (start stop : Nat)
  deriving Inhabited

namespace Node

def start : Node → Nat
  | .bad _ s => s
  | .null s _ | .bool _ s _ | .num _ s _ | .str _ s _ | .arr _ _ s _ | .obj _ _ s _ => s

def stop : Node → Nat
  | .bad e _ => e.offset
  | .null _ e | .bool _ _ e | .num _ _ e | .str _ _ e | .arr _ _ _ e | .obj _ _ _ e => e

mutual
def firstBad? : Node → Option ReadError
  | .bad e _ => some e
  | .arr xs tail _ _ => (itemsFirstBad? xs).or tail
  | .obj kvs tail _ _ => (membersFirstBad? kvs).or tail
  | _ => none

def itemsFirstBad? : List Node → Option ReadError
  | [] => none
  | x :: rest => (firstBad? x).or (itemsFirstBad? rest)

def membersFirstBad? : List (String × Node) → Option ReadError
  | [] => none
  | (_, v) :: rest => (firstBad? v).or (membersFirstBad? rest)
end

mutual
def toJson : Node → Json
  | .bad _ _ => .null
  | .null _ _ => .null
  | .bool b _ _ => .bool b
  | .num n _ _ => .num n
  | .str s _ _ => .str s
  | .arr xs _ _ _ => .arr (itemsToJson xs)
  | .obj kvs _ _ _ => .obj (membersToJson kvs)

def itemsToJson : List Node → List Json
  | [] => []
  | x :: rest => toJson x :: itemsToJson rest

def membersToJson : List (String × Node) → List (String × Json)
  | [] => []
  | (k, v) :: rest => (k, toJson v) :: membersToJson rest
end

mutual
def ofJson : Json → Node
  | .null => .null 0 0
  | .bool b => .bool b 0 0
  | .num n => .num n 0 0
  | .str s => .str s 0 0
  | .arr xs => .arr (itemsOfJson xs) none 0 0
  | .obj kvs => .obj (membersOfJson kvs) none 0 0

def itemsOfJson : List Json → List Node
  | [] => []
  | x :: rest => ofJson x :: itemsOfJson rest

def membersOfJson : List (String × Json) → List (String × Node)
  | [] => []
  | (k, v) :: rest => (k, ofJson v) :: membersOfJson rest
end

end Node

def lineColumn (bytes : ByteArray) (offset : Nat) : Nat × Nat :=
  (bytes.toList.take offset).foldl (fun (lc : Nat × Nat) (b : UInt8) => if b == 10 then (lc.1 + 1, 0) else (lc.1, lc.2 + 1)) (1, 0)

def positionText (bytes : ByteArray) (offset : Nat) : String :=
  let (l, c) := lineColumn bytes offset
  " at line " ++ toString l ++ " column " ++ toString c

def ReadError.render (bytes : ByteArray) (e : ReadError) : String := e.message ++ positionText bytes e.offset

namespace JsonReader

abbrev Step (α : Type) := Except ReadError (α × Nat)

def isBlank (b : UInt8) : Bool := b == 32 || b == 10 || b == 13 || b == 9

def skipBlank (bs : ByteArray) (i : Nat) : Nat :=
  go (bs.size - i) i
where
  go : Nat → Nat → Nat
    | 0, i => i
    | fuel + 1, i => if i < bs.size && isBlank (bs.get! i) then go fuel (i + 1) else i

def byteAt? (bs : ByteArray) (i : Nat) : Option UInt8 := if i < bs.size then some (bs.get! i) else none

def peekError (bs : ByteArray) (msg : String) (i : Nat) : ReadError := ⟨msg, min bs.size (i + 1)⟩

def isDigitByte (b : UInt8) : Bool := 48 ≤ b && b ≤ 57

def skipDigits (bs : ByteArray) (i : Nat) : Nat :=
  go (bs.size - i) i
where
  go : Nat → Nat → Nat
    | 0, i => i
    | fuel + 1, i => if i < bs.size && isDigitByte (bs.get! i) then go fuel (i + 1) else i

def digitValues (bs : ByteArray) (a b : Nat) : List Nat :=
  ((bs.extract a b).toList.map fun d => d.toNat - 48)

/-- Whether appending digit `d` to `acc` would pass `limit`; the test is made before the digit is
taken, so a significand or exponent never passes its limit. -/
def digitOverflows (acc d limit : Nat) : Bool :=
  acc ≥ limit / 10 && (acc > limit / 10 || d > limit % 10)

def wordMax : Nat := Nat.pow 2 64 - 1

def exponentMax : Nat := Nat.pow 2 31 - 1

/-- Take digits into a significand while it stays within 64 bits; the digits left over start
with the one that did not fit. -/
def takeSignificand : Nat → List Nat → Nat × List Nat
  | acc, [] => (acc, [])
  | acc, d :: ds => if digitOverflows acc d wordMax then (acc, d :: ds) else takeSignificand (acc * 10 + d) ds

/-- Take exponent digits while the exponent stays within 32 signed bits: the value, or the index
of the first digit that did not fit. -/
def takeExponent : Nat → Nat → List Nat → Except Nat Nat
  | acc, _, [] => .ok acc
  | acc, i, d :: ds => if digitOverflows acc d exponentMax then .error i else takeExponent (acc * 10 + d) (i + 1) ds

def tenPower (k : Nat) : F64 := Binary.ofNat (Nat.pow 10 k)

/-- Scale by a power of ten as the reader does: one product or quotient with the rounded power,
powers past `10^308` going down by `10^308` at a time until the value is zero; `none` when the
value grows infinite or the power is too large. `fuel` bounds the steps. -/
def scaleByTen : Nat → F64 → Int → Option F64
  | 0, f, _ => some f
  | fuel + 1, f, e =>
    if e.natAbs ≤ 308 then
      if 0 ≤ e then
        let g := f * tenPower e.toNat
        if g.isInf then none else some g
      else some (f / tenPower e.natAbs)
    else if f.eq 0 then some f
    else if 0 ≤ e then none
    else scaleByTen fuel (f / tenPower 308) (e + 308)

/-- The binary64 value of a significand and a decimal exponent, as the reader computes it: the
significand rounded, then scaled; `none` when out of range. -/
def scaledValue (neg : Bool) (sig : Nat) (e : Int) : Option F64 :=
  (scaleByTen (e.natAbs / 308 + 2) (Binary.ofNat sig) e).map fun f => if neg then f.neg else f

def saturateExponent (e : Int) : Int := max (-(Nat.pow 2 31 : Int)) (min (exponentMax : Int) e)

/-- Read a number starting at `i`.

A number without fraction or exponent whose digits fit in 64 bits is an integer: a negative one
below `-2^63`, and `-0`, become binary64. Otherwise the digits are taken into a 64-bit significand
while they fit; integer digits past that raise the exponent and fraction digits past it are
dropped. The value is the significand scaled by one rounded power of ten, which is not always
the nearest binary64 value. -/
def readNumber (bs : ByteArray) (i : Nat) : Step JsonNumber :=
  let neg := byteAt? bs i == some 45
  let j := if neg then i + 1 else i
  match byteAt? bs j with
  | none => .error ⟨"EOF while parsing a value", bs.size⟩
  | some b =>
    if !isDigitByte b then .error ⟨"invalid number", j + 1⟩
    else
      let intEnd := if b == 48 then j + 1 else skipDigits bs j
      if b == 48 && (byteAt? bs intEnd).any isDigitByte then .error (peekError bs "invalid number" intEnd)
      else
        -- optional fraction
        let fracResult : Except ReadError (Nat × Bool) :=
          if byteAt? bs intEnd == some 46 then
            let k := skipDigits bs (intEnd + 1)
            if k == intEnd + 1 then
              match byteAt? bs k with
              | some _ => .error (peekError bs "invalid number" k)
              | none => .error ⟨"EOF while parsing a value", bs.size⟩
            else .ok (k, true)
          else .ok (intEnd, false)
        match fracResult with
        | .error e => .error e
        | .ok (k, hasFrac) =>
          -- optional exponent: where its digits start and whether it is negative
          let expResult : Except ReadError (Nat × Option (Nat × Bool)) :=
            match byteAt? bs k with
            | some 101 | some 69 =>
              let sign := byteAt? bs (k + 1)
              let k1 := if sign == some 43 || sign == some 45 then k + 2 else k + 1
              let k2 := skipDigits bs k1
              if k2 == k1 then
                match byteAt? bs k1 with
                | some _ => .error (peekError bs "invalid number" k1)
                | none => .error ⟨"EOF while parsing a value", bs.size⟩
              else .ok (k2, some (k1, sign == some 45))
            | _ => .ok (k, none)
          match expResult with
          | .error e => .error e
          | .ok (stop, expPart) =>
            let (sig, intRest) := takeSignificand 0 (digitValues bs j intEnd)
            if !hasFrac && expPart.isNone && intRest.isEmpty then
              if !neg then .ok (.nat sig, stop)
              else if 0 < sig && sig ≤ Nat.pow 2 63 then .ok (.neg (-(sig : Int)), stop)
              else .ok (.float (Binary.ofNat sig : F64).neg, stop)
            else
              let fracDigits := if hasFrac then digitValues bs (intEnd + 1) k else []
              let (sig, fracRest) := takeSignificand sig fracDigits
              let start : Int := (intRest.length : Int) - ((fracDigits.length - fracRest.length : Nat) : Int)
              let outOfRange : ReadError := ⟨"number out of range", stop⟩
              let finish (e : Int) : Step JsonNumber :=
                match scaledValue neg sig e with
                | some x => .ok (.float x, stop)
                | none => .error outOfRange
              match expPart with
              | none => finish start
              | some (k1, expNeg) =>
                match takeExponent 0 0 (digitValues bs k1 stop) with
                | .ok v => finish (saturateExponent (if expNeg then start - v else start + v))
                | .error pos =>
                  if sig != 0 && !expNeg then .error ⟨"number out of range", k1 + pos + 1⟩
                  else .ok (.float (if neg then Binary.zero true else Binary.zero false), stop)

def hexValue? (b : UInt8) : Option Nat :=
  if 48 ≤ b && b ≤ 57 then some (b.toNat - 48)
  else if 97 ≤ b && b ≤ 102 then some (b.toNat - 87)
  else if 65 ≤ b && b ≤ 70 then some (b.toNat - 55)
  else none

def hex4At? (bs : ByteArray) (i : Nat) : Option Nat :=
  match hexValue? (bs.get! i), hexValue? (bs.get! (i + 1)), hexValue? (bs.get! (i + 2)), hexValue? (bs.get! (i + 3)) with
  | some a, some b, some c, some d => if i + 4 ≤ bs.size then some (((a * 16 + b) * 16 + c) * 16 + d) else none
  | _, _, _, _ => none

def utf8Of (c : Nat) : List UInt8 := (String.singleton (Char.ofNat c)).toUTF8.toList

def readStringBody (bs : ByteArray) : Nat → Nat → Array UInt8 → Step String
  | 0, i, _ => .error ⟨"EOF while parsing a string", max i bs.size⟩
  | fuel + 1, i, acc =>
    match byteAt? bs i with
    | none => .error ⟨"EOF while parsing a string", bs.size⟩
    | some 34 => .ok (String.fromUTF8! (ByteArray.mk acc), i + 1)
    | some 92 =>
      match byteAt? bs (i + 1) with
      | none => .error ⟨"EOF while parsing a string", bs.size⟩
      | some e =>
        let simple : Option UInt8 :=
          if e == 34 then some 34 else if e == 92 then some 92 else if e == 47 then some 47
          else if e == 98 then some 8 else if e == 102 then some 12 else if e == 110 then some 10
          else if e == 114 then some 13 else if e == 116 then some 9 else none
        match simple with
        | some c => readStringBody bs fuel (i + 2) (acc.push c)
        | none =>
          if e != 117 then .error ⟨"invalid escape", i + 2⟩
          else if bs.size < i + 6 then .error ⟨"EOF while parsing a string", bs.size⟩
          else
            match hex4At? bs (i + 2) with
            | none => .error ⟨"invalid escape", i + 6⟩
            | some u =>
              if 0xD800 ≤ u && u < 0xDC00 then
                -- a leading surrogate must be followed by an escaped trailing one; the byte
                -- found in its place is consumed before the error
                match byteAt? bs (i + 6), byteAt? bs (i + 7) with
                | none, _ => .error ⟨"EOF while parsing a string", bs.size⟩
                | some 92, none => .error ⟨"EOF while parsing a string", bs.size⟩
                | some 92, some 117 =>
                  if bs.size < i + 12 then .error ⟨"EOF while parsing a string", bs.size⟩
                  else
                    match hex4At? bs (i + 8) with
                    | some lo =>
                      if 0xDC00 ≤ lo && lo < 0xE000 then
                        let c := 0x10000 + (u - 0xD800) * 0x400 + (lo - 0xDC00)
                        readStringBody bs fuel (i + 12) (acc ++ (utf8Of c).toArray)
                      else .error ⟨"lone leading surrogate in hex escape", i + 12⟩
                    | none => .error ⟨"invalid escape", i + 12⟩
                | some 92, some _ => .error ⟨"unexpected end of hex escape", i + 8⟩
                | some _, _ => .error ⟨"unexpected end of hex escape", i + 7⟩
              else if 0xDC00 ≤ u && u < 0xE000 then .error ⟨"lone leading surrogate in hex escape", i + 6⟩
              else readStringBody bs fuel (i + 6) (acc ++ (utf8Of u).toArray)
    | some b =>
      if b < 32 then .error ⟨"control character (\\u0000-\\u001F) found while parsing a string", i + 1⟩
      else readStringBody bs fuel (i + 1) (acc.push b)

def readWord (bs : ByteArray) (word : List UInt8) (i : Nat) : Except ReadError Nat :=
  go word i
where
  go : List UInt8 → Nat → Except ReadError Nat
    | [], i => .ok i
    | w :: rest, i =>
      match byteAt? bs i with
      | none => .error ⟨"EOF while parsing a value", bs.size⟩
      | some b => if b == w then go rest (i + 1) else .error ⟨"expected ident", i + 1⟩

/-- Pass over number digits from `i` (after any minus sign) as a reading that skips the value:
the digits, a fraction and an exponent are checked for form only. Returns the offset after them. -/
def passNumber (bs : ByteArray) (i : Nat) : Except ReadError Nat := do
  let k ← match byteAt? bs i with
    | none => .error ⟨"invalid number", bs.size⟩
    | some 48 =>
      if (byteAt? bs (i + 1)).any isDigitByte then .error (peekError bs "invalid number" (i + 1))
      else .ok (i + 1)
    | some b => if isDigitByte b then .ok (skipDigits bs (i + 1)) else .error ⟨"invalid number", i + 1⟩
  let exponent (k : Nat) : Except ReadError Nat :=
    let k1 := if byteAt? bs k == some 43 || byteAt? bs k == some 45 then k + 1 else k
    match byteAt? bs k1 with
    | none => .error ⟨"invalid number", bs.size⟩
    | some b => if isDigitByte b then .ok (skipDigits bs (k1 + 1)) else .error ⟨"invalid number", k1 + 1⟩
  match byteAt? bs k with
  | some 46 =>
    let m := skipDigits bs (k + 1)
    if m == k + 1 then .error (peekError bs "invalid number" m)
    else if byteAt? bs m == some 101 || byteAt? bs m == some 69 then exponent (m + 1)
    else .ok m
  | some 101 | some 69 => exponent (k + 1)
  | _ => .ok k

/-- Pass over the rest of a string whose opening quote is before `i`: escapes are checked for
form only, so a lone surrogate passes. Returns the offset after the closing quote. -/
def passString (bs : ByteArray) : Nat → Nat → Except ReadError Nat
  | 0, _ => .error ⟨"EOF while parsing a string", bs.size⟩
  | fuel + 1, i =>
    match byteAt? bs i with
    | none => .error ⟨"EOF while parsing a string", bs.size⟩
    | some 34 => .ok (i + 1)
    | some 92 =>
      match byteAt? bs (i + 1) with
      | none => .error ⟨"EOF while parsing a string", bs.size⟩
      | some e =>
        if [34, 92, 47, 98, 102, 110, 114, 116].contains e then passString bs fuel (i + 2)
        else if e != 117 then .error ⟨"invalid escape", i + 2⟩
        else if bs.size < i + 6 then .error ⟨"EOF while parsing a string", bs.size⟩
        else if (hex4At? bs (i + 2)).isSome then passString bs fuel (i + 6)
        else .error ⟨"invalid escape", i + 6⟩
    | some b =>
      if b < 32 then .error ⟨"control character (\\u0000-\\u001F) found while parsing a string", i⟩
      else passString bs fuel (i + 1)

/-- Where passing over a value stands: at a value to pass (`value`), just inside an opened array
or object (`opened`), or behind a value or a closing bracket (`behind`). -/
inductive PassPoint where
  | value (i : Nat)
  | opened (i : Nat)
  | behind (i : Nat)

def eofInside (bs : ByteArray) (object : Bool) : ReadError :=
  ⟨if object then "EOF while parsing an object" else "EOF while parsing a list", bs.size⟩

/-- Pass over a member name and its colon at `i`, giving where the member value starts. -/
def passKey (bs : ByteArray) (i : Nat) : Except ReadError Nat := do
  let j := skipBlank bs i
  match byteAt? bs j with
  | some 34 =>
    let e ← passString bs (bs.size + 1) (j + 1)
    let c := skipBlank bs e
    match byteAt? bs c with
    | some 58 => .ok (c + 1)
    | some _ => .error (peekError bs "expected `:`" c)
    | none => .error (eofInside bs true)
  | some _ => .error (peekError bs "key must be a string" j)
  | none => .error (eofInside bs true)

/-- One step of passing over a value, from a point inside the `enclosing` containers (innermost
first, `true` for an object): the offset after the value, or the next point. -/
def passStep (bs : ByteArray) (point : PassPoint) (enclosing : List Bool) :
    Except ReadError (Sum Nat (PassPoint × List Bool)) :=
  match point with
  | .value i =>
    let j := skipBlank bs i
    match byteAt? bs j with
    | none => .error ⟨"EOF while parsing a value", bs.size⟩
    | some b =>
      let behind (r : Except ReadError Nat) := r.map fun k => Sum.inr (PassPoint.behind k, enclosing)
      if b == 110 then behind (readWord bs [117, 108, 108] (j + 1))
      else if b == 116 then behind (readWord bs [114, 117, 101] (j + 1))
      else if b == 102 then behind (readWord bs [97, 108, 115, 101] (j + 1))
      else if b == 45 then behind (passNumber bs (j + 1))
      else if isDigitByte b then behind (passNumber bs j)
      else if b == 34 then behind (passString bs (bs.size + 1) (j + 1))
      else if b == 91 then .ok (.inr (.opened (j + 1), false :: enclosing))
      else if b == 123 then .ok (.inr (.opened (j + 1), true :: enclosing))
      else .error (peekError bs "expected value" j)
  | .opened i =>
    match enclosing with
    | [] => .ok (.inl i)
    | object :: rest =>
      let j := skipBlank bs i
      match byteAt? bs j with
      | none => .error (eofInside bs object)
      | some c =>
        if (c == 93 && !object) || (c == 125 && object) then .ok (.inr (.behind (j + 1), rest))
        else if object then (passKey bs j).map fun k => .inr (.value k, enclosing)
        else .ok (.inr (.value j, enclosing))
  | .behind i =>
    match enclosing with
    | [] => .ok (.inl i)
    | object :: rest =>
      let j := skipBlank bs i
      match byteAt? bs j with
      | none => .error (eofInside bs object)
      | some c =>
        if c == 44 then
          if object then (passKey bs (j + 1)).map fun k => .inr (.value k, enclosing)
          else .ok (.inr (.value (j + 1), enclosing))
        else if (c == 93 && !object) || (c == 125 && object) then .ok (.inr (.behind (j + 1), rest))
        else .error (peekError bs (if object then "expected `,` or `\x7d`" else "expected `,` or `]`") j)

/-- Pass over the value at `i` as a reading does for an object member it does not know, and give
the offset after it. Only the form is checked: numbers need not fit, escapes need not pair, and
nesting has no limit. Of two steps in a row at least one passes a byte, so `2 * bs.size + 4`
steps suffice. -/
def passValue (bs : ByteArray) (i : Nat) : Except ReadError Nat :=
  go (2 * bs.size + 4) (.value i) []
where
  go : Nat → PassPoint → List Bool → Except ReadError Nat
    | 0, _, _ => .error ⟨"EOF while parsing a value", bs.size⟩
    | fuel + 1, point, enclosing =>
      match passStep bs point enclosing with
      | .error e => .error e
      | .ok (.inl k) => .ok k
      | .ok (.inr (point, enclosing)) => go fuel point enclosing

/-- A value read from an offset and the offset after it; `none` when a syntax error cut the
value short (the error is then inside the value). -/
abbrev Piece := Node × Option Nat

def scalarPiece (i : Nat) (r : Except ReadError (Node × Nat)) : Piece :=
  match r with
  | .ok (v, e) => (v, some e)
  | .error err => (.bad err i, none)

def stopOf (bs : ByteArray) (err : Option ReadError) : Nat :=
  match err with
  | some e => e.offset
  | none => bs.size

mutual
def readValue (bs : ByteArray) (depth : Nat) : Nat → Nat → Piece
  | 0, i => (.bad ⟨"recursion limit exceeded", i⟩ i, none)
  | fuel + 1, i =>
    match byteAt? bs i with
    | none => (.bad ⟨"EOF while parsing a value", bs.size⟩ i, none)
    | some b =>
      if b == 110 then scalarPiece i ((readWord bs [117, 108, 108] (i + 1)).map fun e => (.null i e, e))
      else if b == 116 then scalarPiece i ((readWord bs [114, 117, 101] (i + 1)).map fun e => (.bool true i e, e))
      else if b == 102 then scalarPiece i ((readWord bs [97, 108, 115, 101] (i + 1)).map fun e => (.bool false i e, e))
      else if b == 45 || isDigitByte b then scalarPiece i ((readNumber bs i).map fun (n, e) => (.num n i e, e))
      else if b == 34 then scalarPiece i ((readStringBody bs (bs.size + 1) (i + 1) #[]).map fun (s, e) => (.str s i e, e))
      else if b == 91 then
        if 127 ≤ depth then (.bad ⟨"recursion limit exceeded", i + 1⟩ i, none)
        else
          let j := skipBlank bs (i + 1)
          match byteAt? bs j with
          | some 93 => (.arr [] none i (j + 1), some (j + 1))
          | none => (.arr [] (some ⟨"EOF while parsing a list", bs.size⟩) i bs.size, none)
          | some _ =>
            match readItems bs (depth + 1) fuel j [] with
            | (xs, .ok e) => (.arr xs none i e, some e)
            | (xs, .error err) => (.arr xs err i (stopOf bs err), none)
      else if b == 123 then
        if 127 ≤ depth then (.bad ⟨"recursion limit exceeded", i + 1⟩ i, none)
        else
          let j := skipBlank bs (i + 1)
          match byteAt? bs j with
          | some 125 => (.obj [] none i (j + 1), some (j + 1))
          | _ =>
            match readMembers bs (depth + 1) fuel j [] with
            | (kvs, .ok e) => (.obj kvs none i e, some e)
            | (kvs, .error err) => (.obj kvs err i (stopOf bs err), none)
      else (.bad (peekError bs "expected value" i) i, none)

/-- Read array items from `i`, the first one not yet read. Returns the items and the offset after
`]`, or the items read and the error that stopped them (`none` when it lies inside the last item). -/
def readItems (bs : ByteArray) (depth : Nat) : Nat → Nat → List Node →
    List Node × Except (Option ReadError) Nat
  | 0, i, acc => (acc.reverse, .error (some ⟨"recursion limit exceeded", i⟩))
  | fuel + 1, i, acc =>
    match readValue bs depth fuel i with
    | (v, none) => ((v :: acc).reverse, .error none)
    | (v, some e) =>
      let acc := v :: acc
      let j := skipBlank bs e
      match byteAt? bs j with
      | some 93 => (acc.reverse, .ok (j + 1))
      | some 44 =>
        let k := skipBlank bs (j + 1)
        match byteAt? bs k with
        | some 93 => (acc.reverse, .error (some (peekError bs "trailing comma" k)))
        | none => (acc.reverse, .error (some ⟨"EOF while parsing a value", bs.size⟩))
        | some _ => readItems bs depth fuel k acc
      | some _ => (acc.reverse, .error (some (peekError bs "expected `,` or `]`" j)))
      | none => (acc.reverse, .error (some ⟨"EOF while parsing a list", bs.size⟩))

/-- Read object members from `i`, at a key. Returns the members and the offset after `}`, or the
members read and the error that stopped them (`none` when it lies inside the last value). -/
def readMembers (bs : ByteArray) (depth : Nat) : Nat → Nat → List (String × Node) →
    List (String × Node) × Except (Option ReadError) Nat
  | 0, i, acc => (acc.reverse, .error (some ⟨"recursion limit exceeded", i⟩))
  | fuel + 1, i, acc =>
    match byteAt? bs i with
    | none => (acc.reverse, .error (some ⟨"EOF while parsing an object", bs.size⟩))
    | some 34 =>
      match readStringBody bs (bs.size + 1) (i + 1) #[] with
      | .error e => (acc.reverse, .error (some e))
      | .ok (key, e) =>
        let c := skipBlank bs e
        match byteAt? bs c with
        | none => (acc.reverse, .error (some ⟨"EOF while parsing an object", bs.size⟩))
        | some 58 =>
          let vi := skipBlank bs (c + 1)
          let (v, after) := readValue bs depth fuel vi
          -- a member whose value a full reading refuses is read on from where passing over ends
          let after := match after with
            | some e => some e
            | none => (passValue bs vi).toOption
          match v, after with
          | v, none => (((key, v) :: acc).reverse, .error none)
          | v, some e =>
            let acc := (key, v) :: acc
            let j := skipBlank bs e
            match byteAt? bs j with
            | some 125 => (acc.reverse, .ok (j + 1))
            | some 44 =>
              let k := skipBlank bs (j + 1)
              match byteAt? bs k with
              | some 125 => (acc.reverse, .error (some (peekError bs "trailing comma" k)))
              | none => (acc.reverse, .error (some ⟨"EOF while parsing a value", bs.size⟩))
              | some 34 => readMembers bs depth fuel k acc
              | some _ => (acc.reverse, .error (some (peekError bs "key must be a string" k)))
            | some _ => (acc.reverse, .error (some (peekError bs "expected `,` or `\x7d`" j)))
            | none => (acc.reverse, .error (some ⟨"EOF while parsing an object", bs.size⟩))
        | some _ => (acc.reverse, .error (some (peekError bs "expected `:`" c)))
    | some _ => (acc.reverse, .error (some (peekError bs "key must be a string" i)))
end

end JsonReader

/-- A whole text read as one JSON value: its bytes, the tree (cut short at the first syntax error,
if any), and the error about anything but blanks after a complete value. -/
structure Document where
  bytes : ByteArray
  root : Node
  trailing : Option ReadError

def Document.read (text : String) : Document :=
  let bs := text.toUTF8
  let i := JsonReader.skipBlank bs 0
  match JsonReader.readValue bs 0 (2 * bs.size + 4) i with
  | (v, none) => ⟨bs, v, none⟩
  | (v, some e) =>
    let j := JsonReader.skipBlank bs e
    ⟨bs, v, if j < bs.size then some (JsonReader.peekError bs "trailing characters" j) else none⟩

def Document.syntaxError? (d : Document) : Option ReadError := d.root.firstBad?.or d.trailing

def parseJson (text : String) : Except String Node :=
  let d := Document.read text
  match d.syntaxError? with
  | some e => .error (e.render d.bytes)
  | none => .ok d.root

end Glitch
