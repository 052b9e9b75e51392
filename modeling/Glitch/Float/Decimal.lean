import Glitch.Float.Binary
/-!
Decimal text of binary floating point, and reading it back.

A finite nonzero value `m * 2^e` is written with the fewest significant digits that read back to
it, and of those with the nearest to the exact value (ties to the even digit string). The reals
that read back to `m * 2^e` lie within half a place of it, the interval closed when `m` is even;
at the bottom of a binade the gap below is half the gap above. Three layouts of those digits are
used: plain positional text, the compact number text of JSON writers (switching to an exponent far
from 1), and a fixed number of places rounded half to even.

Reading accepts an optional sign, then `inf`, `infinity` or `nan` in any case, or digits with an
optional point and an optional exponent, and rounds the exact value once.
-/
namespace Glitch

def comparePow (a : Nat) (s : Int) (b : Nat) (t : Int) : Ordering :=
  compare (a * Nat.pow 10 (s.toNat) * Nat.pow 2 ((-t).toNat)) (b * Nat.pow 2 (t.toNat) * Nat.pow 10 ((-s).toNat))

def floorScaled (m : Nat) (e s : Int) : Nat :=
  (m * Nat.pow 2 (e.toNat) * Nat.pow 10 ((-s).toNat)) / (Nat.pow 2 ((-e).toNat) * Nat.pow 10 (s.toNat))

/-- The `k` with `10^k ≤ m * 2^e < 10^(k+1)`, for `m > 0`: an estimate from the binary
exponent, corrected by exact comparisons. -/
def decimalExponent (m : Nat) (e : Int) : Int :=
  go 4 ((((Nat.log2 m : Nat) : Int) + e) * 78913 / 262144)
where
  go : Nat → Int → Int
    | 0, k => k
    | fuel + 1, k =>
      if comparePow 1 k m e == .gt then go fuel (k - 1)
      else if comparePow 1 (k + 1) m e != .gt then go fuel (k + 1)
      else k

def stripZeros : Nat → Nat × Int → Nat × Int
  | 0, de => de
  | fuel + 1, (d, k) => if d != 0 && d % 10 == 0 then stripZeros fuel (d / 10, k + 1) else (d, k)

/-- The shortest decimal `d * 10^k` that reads back as `m * 2^e` (`m > 0`), nearest of the
shortest. `tightBelow` says that the gap to the next smaller value is half the gap above. -/
def shortestDigits (tightBelow : Bool) (m : Nat) (e : Int) : Nat × Int :=
  let k := decimalExponent m e
  let even := m % 2 == 0
  let lo := if tightBelow then 4 * m - 1 else 4 * m - 2
  let hi := 4 * m + 2
  let inside (c : Nat) (s : Int) : Bool :=
    let a := comparePow c s lo (e - 2)
    let b := comparePow c s hi (e - 2)
    (a == .gt || (even && a == .eq)) && (b == .lt || (even && b == .eq))
  let pick (n : Nat) : Option (Nat × Int) :=
    let s := k - n + 1
    let c0 := floorScaled m e s
    let c1 := c0 + 1
    match inside c0 s, inside c1 s with
    | true, true =>
      match comparePow (c0 + c1) s (2 * m) e with
      | .lt => some (c1, s)
      | .gt => some (c0, s)
      | .eq => some (if c0 % 2 == 0 then c0 else c1, s)
    | true, false => some (c0, s)
    | false, true => some (c1, s)
    | false, false => none
  let found := (List.range 20).findSome? (fun i => pick (i + 1))
  let (d, s) := found.getD (floorScaled m e (k - 19), k - 19)
  stripZeros 40 (d, s)

def zeros (n : Nat) : String := String.ofList (List.replicate n '0')

def positional (ds : String) (point : Int) : String :=
  let cs := ds.toList
  let n : Int := cs.length
  if point ≤ 0 then "0." ++ zeros (-point).toNat ++ ds
  else if point < n then
    String.ofList (cs.take point.toNat) ++ "." ++ String.ofList (cs.drop point.toNat)
  else ds ++ zeros (point - n).toNat

/-- The shape of the compact number text: plain when the point falls within
`(minPoint, maxPoint]` places of the first digit, and in scientific notation the exponent with a
`+` on positive values when `signedExponent`, padded with zeros to `exponentWidth` digits. -/
structure CompactStyle where
  maxPoint : Int
  minPoint : Int
  signedExponent : Bool
  exponentWidth : Nat

def CompactStyle.single : CompactStyle := ⟨13, -6, false, 1⟩

def CompactStyle.double : CompactStyle := ⟨16, -5, false, 1⟩

def CompactStyle.message : CompactStyle := ⟨16, -5, true, 1⟩

/-- Binary64 as the toy video tools print it: plain from `10^-4` below `10^16`, and a signed
exponent of at least two digits elsewhere. -/
def CompactStyle.probeTool : CompactStyle := ⟨16, -4, true, 2⟩

def CompactStyle.exponentText (st : CompactStyle) (x : Int) : String :=
  let digits := toString x.natAbs
  let padded := zeros (st.exponentWidth - digits.length) ++ digits
  (if x < 0 then "-" else if st.signedExponent then "+" else "") ++ padded

/-- Compact number text of digits `ds` with the point after `point` of them: positional with a
`.0` on whole numbers near 1, `d.ddde±x` elsewhere. -/
def compactText (st : CompactStyle) (ds : String) (point : Int) : String :=
  let cs := ds.toList
  let n : Int := cs.length
  if 0 ≤ point - n && point ≤ st.maxPoint then ds ++ zeros (point - n).toNat ++ ".0"
  else if 0 < point && point ≤ st.maxPoint then positional ds point
  else if st.minPoint < point && point ≤ 0 then positional ds point
  else
    let expText := st.exponentText (point - 1)
    match cs with
    | [c] => String.singleton c ++ "e" ++ expText
    | c :: rest => String.singleton c ++ "." ++ String.ofList rest ++ "e" ++ expText
    | [] => "0"

namespace Binary

variable {fmt : BinaryFormat}

/-- Is the gap below `m * 2^e` half the gap above: the least significand of a binade above
the subnormals. -/
def tightBelow (m : Nat) (e : Int) : Bool :=
  m == Nat.pow 2 (fmt.fracBits) && fmt.quantumMin < e

def digitsAndPoint? (x : Binary fmt) : Option (Bool × String × Int) :=
  match x.kind with
  | .finite a m e =>
    if m = 0 then none
    else
      let (d, k) := shortestDigits (@tightBelow fmt m e) m e
      let ds := toString d
      some (a, ds, k + ds.length)
  | _ => none

/-- Plain text: shortest digits, positional, no exponent, whole numbers without a point;
`NaN`, `inf`, `-inf`, and `0` or `-0`. -/
def toPlainText (x : Binary fmt) : String :=
  match x.kind with
  | .nan => "NaN"
  | .inf a => if a then "-inf" else "inf"
  | .finite a m _ =>
    if m = 0 then (if a then "-0" else "0")
    else match x.digitsAndPoint? with
      | some (neg, ds, point) => (if neg then "-" else "") ++ positional ds point
      | none => "0"

def toCompactText? (st : CompactStyle) (x : Binary fmt) : Option String :=
  match x.kind with
  | .finite a m _ =>
    if m = 0 then some (if a then "-0.0" else "0.0")
    else match x.digitsAndPoint? with
      | some (neg, ds, point) => some ((if neg then "-" else "") ++ compactText st ds point)
      | none => none
  | _ => none

/-- Debugging text: shortest digits, positional with at least one decimal for magnitudes in
`[10^-4, 10^16)` and zero, `d.ddde-x` outside; `NaN`, `inf`, `-inf`. -/
def toDebugText (x : Binary fmt) : String :=
  match x.kind with
  | .nan => "NaN"
  | .inf a => if a then "-inf" else "inf"
  | .finite a m _ =>
    let sign := if a then "-" else ""
    if m = 0 then sign ++ "0.0"
    else match x.digitsAndPoint? with
      | some (_, ds, point) =>
        let small := x.abs.lt (Binary.ofDecimal 1 true 4)
        let large := (Binary.ofDecimal 1 false 16 : Binary fmt).le x.abs
        if small || large then
          let expText := toString (point - 1)
          match ds.toList with
          | [c] => sign ++ String.singleton c ++ "e" ++ expText
          | c :: rest => sign ++ String.singleton c ++ "." ++ String.ofList rest ++ "e" ++ expText
          | [] => sign ++ "0.0"
        else
          let n : Int := ds.length
          sign ++ (if n ≤ point then ds ++ zeros (point - n).toNat ++ ".0" else positional ds point)
      | none => sign ++ "0.0"

def toFixedText (places : Nat) (x : Binary fmt) : String :=
  match x.kind with
  | .nan => "NaN"
  | .inf a => if a then "-inf" else "inf"
  | .finite a m e =>
    let num := m * Nat.pow 10 places * Nat.pow 2 (e.toNat)
    let den := Nat.pow 2 ((-e).toNat)
    let q := num / den
    let r := num % den
    let n := if den < 2 * r || (den == 2 * r && q % 2 == 1) then q + 1 else q
    let ds := toString n
    let ds := zeros (places + 1 - ds.length) ++ ds
    let cs := ds.toList
    let whole := String.ofList (cs.take (cs.length - places))
    let body := if places = 0 then whole else whole ++ "." ++ String.ofList (cs.drop (cs.length - places))
    (if a then "-" else "") ++ body

end Binary

inductive FloatTextError where
  | empty
  | invalid
  deriving DecidableEq

def FloatTextError.message : FloatTextError → String
  | .empty => "cannot parse float from empty string"
  | .invalid => "invalid float literal"

def spanDigits (cs : List Char) : List Char × List Char :=
  (cs.takeWhile Char.isDigit, cs.dropWhile Char.isDigit)

def digitsValue (ds : List Char) : Nat :=
  ds.foldl (fun acc c => acc * 10 + (c.toNat - '0'.toNat)) 0

/-- A decimal number read from text: `digits * 10^exp` or a special value. -/
inductive DecimalText where
  | nan
  | inf
  | finite (digits : Nat) (digitCount : Nat) (exp : Int)

def readUnsigned (cs : List Char) : Option DecimalText :=
  let low := String.ofList (cs.map Char.toLower)
  if low == "inf" || low == "infinity" then some .inf
  else if low == "nan" then some .nan
  else
    let (intPart, rest) := spanDigits cs
    let (fracPart, rest) := match rest with
      | '.' :: r => spanDigits r
      | r => ([], r)
    if intPart.isEmpty && fracPart.isEmpty then none
    else
      let expPart : Option Int := match rest with
        | [] => some 0
        | c :: r =>
          if c == 'e' || c == 'E' then
            let (neg, r) := match r with
              | '-' :: r => (true, r)
              | '+' :: r => (false, r)
              | r => (false, r)
            if r.isEmpty || !r.all Char.isDigit then none
            else
              let v : Int := digitsValue r
              some (if neg then -v else v)
          else none
      expPart.map fun x =>
        let ds := intPart ++ fracPart
        let d := digitsValue ds
        .finite d (toString d).length (x - fracPart.length)

def Binary.ofText {fmt : BinaryFormat} (s : String) : Except FloatTextError (Binary fmt) :=
  let cs := s.toList
  if cs.isEmpty then .error .empty
  else
    let (neg, body) := match cs with
      | '-' :: r => (true, r)
      | '+' :: r => (false, r)
      | r => (false, r)
    match readUnsigned body with
    | none => .error .invalid
    | some .nan => .ok (if neg then Binary.nan.neg else Binary.nan)
    | some .inf => .ok (Binary.inf neg)
    | some (.finite d n x) =>
      if d = 0 then .ok (Binary.zero neg)
      else if 400 < x + n then .ok (Binary.inf neg)
      else if x + n < -400 then .ok (Binary.zero neg)
      else if 0 ≤ x then .ok (Binary.round neg (d * Nat.pow 10 (x.toNat)) 0 false)
      else
        let den := Nat.pow 10 ((-x).toNat)
        let k := fmt.precision + 2 + Nat.log2 den - Nat.log2 d
        let num := d <<< k
        .ok (Binary.round neg (num / den) (-(k : Int)) (num % den != 0))

end Glitch
