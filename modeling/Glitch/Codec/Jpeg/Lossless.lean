import Glitch.Codec.Jpeg.Entropy
import Glitch.Frame.Basic
/-!
Lossless JPEG: each sample is coded as its difference from a prediction made from the samples to
its left (`a`), above (`b`) and above-left (`c`).

A scan is read in two passes. First the differences: one unit per sample position of the image,
in row order, each unit holding one difference for every component of the scan whatever its
sampling factors, with restart markers between intervals. Then each component's samples are
rebuilt in row order. The first sample of the image is predicted as `2^(P - Pt - 1)` for
precision `P` and point transform `Pt` (zero when that exponent is not positive); the rest of
the first row from `a`, the rest of the first column from `b`, and the others by the scan's
predictor: none, `a`, `b`, `c`, `a + b - c`, `a + (b - c) / 2`, `b + (a - c) / 2` or
`(a + b) / 2`, halving downwards. A sample is the prediction plus the difference modulo `2^16`,
then shifted left by `Pt` (again modulo `2^16`); neighbours are taken after the shift. When the
last unit read began a restart interval, every sample is predicted as the first one, except with
the predictor `a`, whose rebuilding ignores restarts (and whose first prediction shifts with
8-bit and 32-bit wrapping).

The samples become pixels as the image library takes them: 8-bit precision gives one byte per
sample (the low byte), any other precision two. One component is gray, from 8-bit samples as
they are or from 9- to 16-bit samples scaled to bytes with rounding; three components are red,
green and blue as they are; four are inverted inks (multiplied by the inverted fourth over 255).
Samples whose bytes do not fill the image buffer stop the reader outright.
-/
namespace Glitch.Jpeg

def readDifference (t : DecodeTable) : ScanM Int := do
  let sym := (← takeSymbol t).toNat
  if sym = 0 then pure 0
  else if sym ≤ 15 then do pure (extend (← takeBits sym) sym)
  else if sym = 16 then pure 32768
  else throw (.malformed "invalid DC difference magnitude category")

def predictSample (predictor : Nat) (first a b c : Int) (x y : Nat) (fresh : Bool) : Int :=
  if (x = 0 ∧ y = 0) ∨ fresh then first
  else if y = 0 then a
  else if x = 0 then b
  else match predictor with
    | 1 => a
    | 2 => b
    | 3 => c
    | 4 => a + b - c
    | 5 => a + (b - c) / 2
    | 6 => b + (a - c) / 2
    | 7 => (a + b) / 2
    | _ => 0

/-- A component's samples, in row order, from its differences. The sum is reduced modulo `2^16`,
which is what masking a 32-bit sum to 16 bits gives even when the sum wraps: `2^16` divides
`2^32`, so wrapping leaves the residue alone. -/
def rebuildSamples (diffs : Array Int) (width height predictor shift : Nat) (first : Int)
    (fresh : Bool) : Array Nat :=
  (List.range (width * height)).foldl (fun (acc : Array Nat) i =>
    let x := i % width
    let y := i / width
    let s (j : Nat) : Int := acc.getD j 0
    let a := if x > 0 then s (i - 1) else 0
    let b := if y > 0 then s (i - width) else 0
    let c := if x > 0 ∧ y > 0 then s (i - width - 1) else 0
    let p := predictSample predictor first a b c x y fresh
    let v := ((p + diffs.getD i 0) % 65536).toNat
    acc.push (v * Nat.pow 2 shift % 65536)) (Array.mkEmpty (width * height))

/-- The first prediction: `2^(P - Pt - 1)`, or zero when the exponent is not positive. With the
predictor `a` the exponent is taken modulo 256 and the power in 32-bit two's complement, the
shift amount modulo 32. -/
def firstPrediction (predictor precision shift : Nat) : Int :=
  if predictor = 1 then
    let e := (precision + 512 - shift - 1) % 256 % 32
    if e = 31 then -(Nat.pow 2 31 : Int) else Nat.pow 2 e
  else if precision > 1 + shift then Nat.pow 2 (precision - shift - 1) else 0

def readLosslessScan (f : FrameHeader) (dcTables : Array (Option DecodeTable)) (interval : Nat)
    (scan : ScanHeader) : ReadM (Array (Array Nat) × Option Marker) := do
  if scan.components.any (fun (_, d, _) => (dcTables.getD d none).isNone) then
    throw (.malformed "scan makes use of unset dc huffman table")
  let tables := scan.components.map fun (_, d, _) => (dcTables.getD d none).getD ⟨#[], #[], #[]⟩
  let unit (acc : Array (Array Int) × Nat × Nat) (_ : Nat) : ScanM (Array (Array Int) × Nat × Nat) := do
    let (diffs, left, expected) := acc
    let (left, expected) ← if interval = 0 then pure (left, expected)
      else if left = 0 then do
        takeRestart expected
        pure (interval - 1, (expected + 1) % 8)
      else pure (left - 1, expected)
    let diffs ← (List.range tables.size).foldlM (fun (ds : Array (Array Int)) k => do
      let d ← readDifference (tables.getD k ⟨#[], #[], #[]⟩)
      pure (ds.modify k (·.push d))) diffs
    pure (diffs, left, expected)
  let body : ScanM (Array (Array Int) × Nat × Option Marker) := do
    let (diffs, left, _) ← (List.range (f.width * f.height)).foldlM unit
      (Array.replicate tables.size #[], interval, 0)
    pure (diffs, left, ← takeMarker)
  let ((diffs, left, m), _) ← body.run ⟨0, 0, none⟩
  let m ← passRestarts m
  let predictor := scan.start
  let fresh := predictor ≠ 1 ∧ interval > 0 ∧ left = interval - 1
  let first := firstPrediction predictor f.precision scan.low
  pure (diffs.map (rebuildSamples · f.width f.height predictor scan.low first fresh), m)

def losslessImage (f : FrameHeader) (samples : Array (Array Nat)) : Except ReadFailure Frame :=
  let count := f.components.size
  let s (k i : Nat) : Nat := (samples.getD k #[]).getD i 0
  let byte (k i : Nat) : UInt8 := (s k i % 256).toUInt8
  if f.precision = 8 then
    if count = 1 then .ok (Frame.ofFn f.width f.height fun i => ⟨byte 0 i, byte 0 i, byte 0 i, 255⟩)
    else if count = 3 then .ok (Frame.ofFn f.width f.height fun i => ⟨byte 0 i, byte 1 i, byte 2 i, 255⟩)
    else .ok (Frame.ofFn f.width f.height fun i =>
      let k := 255 - s 3 i % 256
      let ink (c : Nat) : UInt8 := ((255 - s c i % 256) * k / 255).toUInt8
      ⟨ink 0, ink 1, ink 2, 255⟩)
  else if count = 1 ∧ 9 ≤ f.precision ∧ f.precision ≤ 16 then
    .ok (Frame.ofFn f.width f.height fun i => let v := ((s 0 i + 128) / 257).toUInt8; ⟨v, v, v, 255⟩)
  else .error .sizeMismatch

end Glitch.Jpeg
