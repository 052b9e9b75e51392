/-!
Binary floating point in the two widths the program computes with, binary32 (`F32`) and
binary64 (`F64`), each held as its bit pattern.

Every operation forms the exact result of its operands, an integer times a power of two with a
flag for a nonzero part below the last place, and rounds it once, to nearest with ties to even.
Each operation is therefore the correctly rounded operation of IEEE 754. A NaN result is the
positive quiet NaN. Nothing here calls the machine's floating point.
-/
namespace Glitch

/-- An interchange format: `fracBits` stored fraction bits and `expBits` exponent bits. -/
structure BinaryFormat where
  fracBits : Nat
  expBits : Nat

namespace BinaryFormat

def single : BinaryFormat := ⟨23, 8⟩

def double : BinaryFormat := ⟨52, 11⟩

def precision (f : BinaryFormat) : Nat := f.fracBits + 1

def bias (f : BinaryFormat) : Nat := Nat.pow 2 (f.expBits - 1) - 1

def topField (f : BinaryFormat) : Nat := Nat.pow 2 (f.expBits) - 1

/-- Weight of the last place of subnormal numbers, the finest quantum of the format. -/
def quantumMin (f : BinaryFormat) : Int := 1 - (f.bias : Int) - f.fracBits

def signBit (f : BinaryFormat) : Nat := Nat.pow 2 (f.fracBits + f.expBits)

end BinaryFormat

/-- A value of format `fmt`, as its bit pattern. -/
structure Binary (fmt : BinaryFormat) where
  bits : Nat
  deriving DecidableEq, Inhabited

abbrev F32 := Binary BinaryFormat.single

abbrev F64 := Binary BinaryFormat.double

/-- What a bit pattern denotes: NaN, a signed infinity, or `(-1)^neg * mant * 2^exp`. -/
inductive Binary.Kind where
  | nan
  | inf (neg : Bool)
  | finite (neg : Bool) (mant : Nat) (exp : Int)

/-- Integer square root: the greatest `r` with `r * r ≤ v`, fixing one bit of `r` at a time
from bit `i - 1` down. -/
def isqrtFrom (v : Nat) : Nat → Nat → Nat
  | 0, r => r
  | i + 1, r =>
    let c := r + Nat.pow 2 i
    isqrtFrom v i (if c * c ≤ v then c else r)

def isqrt (v : Nat) : Nat := isqrtFrom v (Nat.log2 v / 2 + 1) 0

namespace Binary

variable {fmt : BinaryFormat}

def negBit (x : Binary fmt) : Bool := x.bits / fmt.signBit % 2 == 1

def expField (x : Binary fmt) : Nat := x.bits / Nat.pow 2 (fmt.fracBits) % Nat.pow 2 (fmt.expBits)

def fracField (x : Binary fmt) : Nat := x.bits % Nat.pow 2 (fmt.fracBits)

def kind (x : Binary fmt) : Kind :=
  let e := x.expField
  if e == fmt.topField then
    if x.fracField == 0 then .inf x.negBit else .nan
  else if e == 0 then .finite x.negBit x.fracField fmt.quantumMin
  else .finite x.negBit (x.fracField + Nat.pow 2 (fmt.fracBits)) (fmt.quantumMin + e - 1)

/-- The pattern with sign `neg`, exponent field `e` and fraction field `m`. -/
def pack (neg : Bool) (e m : Nat) : Binary fmt :=
  ⟨(if neg then fmt.signBit else 0) + e * Nat.pow 2 (fmt.fracBits) + m⟩

def nan : Binary fmt := pack false fmt.topField (Nat.pow 2 (fmt.fracBits - 1))

def inf (neg : Bool) : Binary fmt := pack neg fmt.topField 0

def zero (neg : Bool) : Binary fmt := pack neg 0 0

def maxFinite : Binary fmt := pack false (fmt.topField - 1) (Nat.pow 2 (fmt.fracBits) - 1)

/-- Place a significand `mant ≤ 2 ^ precision` whose last place weighs `2 ^ q`. A significand
that rounded up to `2 ^ precision` moves to the next binade; past the largest exponent the
value is infinite. -/
def place (neg : Bool) (mant : Nat) (q : Int) : Binary fmt :=
  let p := fmt.precision
  let (mant, q) := if mant = Nat.pow 2 p then (Nat.pow 2 (p - 1), q + 1) else (mant, q)
  if mant < Nat.pow 2 (p - 1) then pack neg 0 mant
  else
    let e := (q - fmt.quantumMin + 1).toNat
    if fmt.topField ≤ e then inf neg else pack neg e (mant - Nat.pow 2 (p - 1))

/-- Round `(-1)^neg * (m + δ) * 2^exp` to nearest, ties to even. Here `δ = 0` when `sticky` is
false and `0 < δ < 1` when it is true; a caller that sets `sticky` gives `m` at least
`precision + 2` bits, so that the flag only breaks ties. -/
def round (neg : Bool) (m : Nat) (exp : Int) (sticky : Bool) : Binary fmt :=
  if m = 0 then zero neg
  else
    let q := max (exp + ((Nat.log2 m + 1 : Nat) : Int) - fmt.precision) fmt.quantumMin
    if q ≤ exp then place neg (m <<< (exp - q).toNat) q
    else
      let sh := (q - exp).toNat
      let keep := m >>> sh
      let rest := m % Nat.pow 2 sh
      let half := Nat.pow 2 (sh - 1)
      let up := half < rest || (rest == half && (sticky || keep % 2 == 1))
      place neg (if up then keep + 1 else keep) q

def ofInt (i : Int) : Binary fmt := round (i < 0) i.natAbs 0 false

def ofNat (n : Nat) : Binary fmt := round false n 0 false

/-- The value `m * 10^e` (or `m / 10^e` when `negExp`), rounded once. -/
def ofDecimal (m : Nat) (negExp : Bool) (e : Nat) : Binary fmt :=
  if negExp then
    let den := Nat.pow 10 e
    let k := fmt.precision + 2 + Nat.log2 den - Nat.log2 m
    let num := m <<< k
    round false (num / den) (-(k : Int)) (num % den != 0)
  else round false (m * Nat.pow 10 e) 0 false

instance {n : Nat} : OfNat (Binary fmt) n := ⟨ofNat n⟩

instance : OfScientific (Binary fmt) := ⟨fun m s e => ofDecimal m s e⟩

def isNaN (x : Binary fmt) : Bool := x.expField == fmt.topField && x.fracField != 0

def isInf (x : Binary fmt) : Bool := x.expField == fmt.topField && x.fracField == 0

def isFinite (x : Binary fmt) : Bool := x.expField != fmt.topField

def neg (x : Binary fmt) : Binary fmt :=
  ⟨if x.negBit then x.bits - fmt.signBit else x.bits + fmt.signBit⟩

def abs (x : Binary fmt) : Binary fmt :=
  ⟨if x.negBit then x.bits - fmt.signBit else x.bits⟩

/-- Sum. Two zeros of one sign keep it; any other exact zero is `+0`. -/
def add (x y : Binary fmt) : Binary fmt :=
  match x.kind, y.kind with
  | .nan, _ => nan
  | _, .nan => nan
  | .inf a, .inf b => if a == b then inf a else nan
  | .inf a, _ => inf a
  | _, .inf b => inf b
  | .finite a m e, .finite b n f =>
    let g := min e f
    let u : Int := (if a then -1 else 1) * ((m <<< (e - g).toNat : Nat) : Int)
    let v : Int := (if b then -1 else 1) * ((n <<< (f - g).toNat : Nat) : Int)
    let s := u + v
    if s = 0 then zero (a && b) else round (s < 0) s.natAbs g false

def sub (x y : Binary fmt) : Binary fmt := add x y.neg

def mul (x y : Binary fmt) : Binary fmt :=
  match x.kind, y.kind with
  | .nan, _ => nan
  | _, .nan => nan
  | .inf a, .inf b => inf (a != b)
  | .inf a, .finite b n _ => if n = 0 then nan else inf (a != b)
  | .finite a m _, .inf b => if m = 0 then nan else inf (a != b)
  | .finite a m e, .finite b n f => round (a != b) (m * n) (e + f) false

def div (x y : Binary fmt) : Binary fmt :=
  match x.kind, y.kind with
  | .nan, _ => nan
  | _, .nan => nan
  | .inf _, .inf _ => nan
  | .inf a, .finite b _ _ => inf (a != b)
  | .finite a _ _, .inf b => zero (a != b)
  | .finite a m e, .finite b n f =>
    if n = 0 then (if m = 0 then nan else inf (a != b))
    else if m = 0 then zero (a != b)
    else
      let k := fmt.precision + 2 + Nat.log2 n - Nat.log2 m
      let num := m <<< k
      round (a != b) (num / n) (e - f - k) (num % n != 0)

/-- Square root; `-0` is its own root and a negative value has none. -/
def sqrt (x : Binary fmt) : Binary fmt :=
  match x.kind with
  | .nan => nan
  | .inf a => if a then nan else inf false
  | .finite a m e =>
    if m = 0 then x
    else if a then nan
    else
      let k0 := 2 * fmt.precision + 4 - Nat.log2 m
      let k := if (e - k0) % 2 = 0 then k0 else k0 + 1
      let v := m <<< k
      let r := isqrt v
      round false r ((e - k) / 2) (r * r != v)

/-- Remainder of truncated division, exact, with the sign of the dividend. -/
def rem (x y : Binary fmt) : Binary fmt :=
  match x.kind, y.kind with
  | .nan, _ => nan
  | _, .nan => nan
  | .inf _, _ => nan
  | .finite _ _ _, .inf _ => x
  | .finite a m e, .finite _ n f =>
    if n = 0 then nan
    else
      let g := min e f
      round a ((m <<< (e - g).toNat) % (n <<< (f - g).toNat)) g false

instance : Add (Binary fmt) := ⟨add⟩
instance : Sub (Binary fmt) := ⟨sub⟩
instance : Mul (Binary fmt) := ⟨mul⟩
instance : Div (Binary fmt) := ⟨div⟩
instance : Neg (Binary fmt) := ⟨neg⟩

/-- Signed value of a finite pattern at the common scale `2 ^ g`, `g ≤ e`. -/
def scaledAt (neg : Bool) (m : Nat) (e g : Int) : Int :=
  (if neg then -1 else 1) * ((m <<< (e - g).toNat : Nat) : Int)

/-- Order of two values, `none` when either is NaN; the two zeros are equal. -/
def compare? (x y : Binary fmt) : Option Ordering :=
  match x.kind, y.kind with
  | .nan, _ => none
  | _, .nan => none
  | .inf a, .inf b => some (if a == b then .eq else if a then .lt else .gt)
  | .inf a, _ => some (if a then .lt else .gt)
  | _, .inf b => some (if b then .gt else .lt)
  | .finite a m e, .finite b n f =>
    let g := min e f
    some (compare (scaledAt a m e g) (scaledAt b n f g))

def lt (x y : Binary fmt) : Bool := x.compare? y == some .lt

def le (x y : Binary fmt) : Bool := x.compare? y == some .lt || x.compare? y == some .eq

def eq (x y : Binary fmt) : Bool := x.compare? y == some .eq

instance : LT (Binary fmt) := ⟨fun x y => x.lt y = true⟩
instance : LE (Binary fmt) := ⟨fun x y => x.le y = true⟩
instance (x y : Binary fmt) : Decidable (x < y) := inferInstanceAs (Decidable (x.lt y = true))
instance (x y : Binary fmt) : Decidable (x ≤ y) := inferInstanceAs (Decidable (x.le y = true))

/-- Raise to `lo` what lies below it, then lower to `hi` what lies above; NaN stays. -/
def clamp (x lo hi : Binary fmt) : Binary fmt :=
  let x := if x < lo then lo else x
  if hi < x then hi else x

/-- The smaller value; a NaN operand yields the other one. -/
def min (x y : Binary fmt) : Binary fmt :=
  if x.isNaN then y else if y.isNaN then x else if y < x then y else x

/-- The larger value; a NaN operand yields the other one. -/
def max (x y : Binary fmt) : Binary fmt :=
  if x.isNaN then y else if y.isNaN then x else if x < y then y else x

/-- How an integral rounding treats the dropped fraction. -/
inductive Integral where
  /-- toward zero -/
  | trunc
  /-- toward negative infinity -/
  | floor
  /-- to nearest, halves away from zero -/
  | halfAway

/-- Round to an integral value; zero results keep the sign of the operand. -/
def toIntegral (mode : Integral) (x : Binary fmt) : Binary fmt :=
  match x.kind with
  | .finite a m e =>
    if 0 ≤ e then x
    else
      let sh := (-e).toNat
      let keep := m >>> sh
      let rest := m % Nat.pow 2 sh
      let up := match mode with
        | .trunc => false
        | .floor => a && rest != 0
        | .halfAway => Nat.pow 2 (sh - 1) ≤ rest
      round a (if up then keep + 1 else keep) 0 false
  | _ => x

def roundHalfAway (x : Binary fmt) : Binary fmt := x.toIntegral .halfAway

def floor (x : Binary fmt) : Binary fmt := x.toIntegral .floor

def trunc (x : Binary fmt) : Binary fmt := x.toIntegral .trunc

/-- Euclidean remainder: the truncated remainder, moved up by `|y|` when negative. -/
def remEuclid (x y : Binary fmt) : Binary fmt :=
  let r := x.rem y
  if r < 0 then r + y.abs else r

/-- Integer part toward zero, clamped into `[lo, hi]`; NaN gives 0 and infinities the
nearer bound. This is the saturating integer conversion. -/
def toIntClamped (lo hi : Int) (x : Binary fmt) : Int :=
  match x.kind with
  | .nan => 0
  | .inf a => if a then lo else hi
  | .finite a m e =>
    let t : Nat := if 0 ≤ e then m <<< e.toNat else m >>> (-e).toNat
    let i : Int := if a then -(t : Int) else t
    Max.max lo (Min.min hi i)

def toUInt8 (x : Binary fmt) : UInt8 := (x.toIntClamped 0 255).toNat.toUInt8

def toUInt32 (x : Binary fmt) : UInt32 := (x.toIntClamped 0 (Nat.pow 2 32 - 1)).toNat.toUInt32

/-- Saturating conversion to a signed 64-bit integer, as an `Int`. -/
def toInt64 (x : Binary fmt) : Int := x.toIntClamped (-(Nat.pow 2 63)) (Nat.pow 2 63 - 1)

/-- Saturating conversion to a signed 32-bit integer, as an `Int`. -/
def toInt32 (x : Binary fmt) : Int := x.toIntClamped (-(Nat.pow 2 31)) (Nat.pow 2 31 - 1)

/-- Saturating conversion to an unsigned 64-bit integer, as a `Nat`. -/
def toUInt64 (x : Binary fmt) : Nat := (x.toIntClamped 0 (Nat.pow 2 64 - 1)).toNat

def convert {g : BinaryFormat} (x : Binary fmt) : Binary g :=
  match x.kind with
  | .nan => Binary.nan
  | .inf a => Binary.inf a
  | .finite a m e => Binary.round a m e false

def ofUInt8 (b : UInt8) : Binary fmt := ofNat b.toNat

def toF64 (x : Binary fmt) : F64 := x.convert

def toF32 (x : Binary fmt) : F32 := x.convert

end Binary

end Glitch

/-!
## Elementary functions

Natural logarithm and cosine of binary32 values. Both are taken from the machine's binary64
functions at the exact binary64 value of the operand and rounded to binary32; this is the
correctly rounded result unless the true value lies extremely close to the midpoint of two
binary32 neighbours.
-/
namespace Glitch

/-- The machine number with the bits of a binary64 value. -/
def F64.toMachine (x : F64) : Float := Float.ofBits x.bits.toUInt64

def F64.ofMachine (d : Float) : F64 := ⟨d.toBits.toNat⟩

def F32.ln (x : F32) : F32 := (F64.ofMachine (Float.log x.toF64.toMachine)).toF32

def F32.cos (x : F32) : F32 := (F64.ofMachine (Float.cos x.toF64.toMachine)).toF32

end Glitch
