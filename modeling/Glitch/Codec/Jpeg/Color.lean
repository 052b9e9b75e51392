import Glitch.Codec.Jpeg.Segments
import Glitch.Codec.Jpeg.Inverse
import Glitch.Frame.Basic
/-!
From decoded component planes to RGB pixels: stretching subsampled components to the image, and
converting the colour space.

A component sampled at `h` by `v` against the largest factors `hMax` by `vMax` is stretched by one
of five rules, chosen from the ratios (a one-column or one-row image counts as unstretched in that
direction):

* equal factors: samples are taken as they are;
* half as wide: each sample makes two, each three parts itself and one part its neighbour on
  that side, rounded (`(3a + b + 2) / 4`); the two end samples are copied;
* half as tall: the same between the nearer source row and the other row around it;
* half as wide and tall: the vertical blend first, then the horizontal one on the blended values
  with `(3a + b + 8) / 16`;
* any other whole ratio: the nearest sample is repeated.

A ratio that is not whole is refused when the frame header is read.

The colour space is decided by the component identifiers of a three-component frame, then by a
JFIF header, then by the Adobe transform code. Y, Cb, Cr goes to RGB in 20-bit fixed point, except
that rows of sixteen or more pixels convert all but their last eight-to-fifteen pixels in eight
16-bit lanes, which round differently. Four components hold inverted inks: CMYK samples are
multiplied by the K sample over 255; YCCK first turns Y, Cb, Cr to RGB and multiplies the
complements of those by K over 255.
-/
namespace Glitch.Jpeg

structure Plane where
  cols : Nat
  blocks : Array (Array Nat)

def Plane.sample (p : Plane) (x y : Nat) : Nat :=
  (p.blocks.getD ((y / 8) * p.cols + x / 8) #[]).getD ((y % 8) * 8 + x % 8) 0

inductive Stretch where
  | same
  | wide
  | tall
  | wideTall
  | repeated (h v : Nat)
  deriving DecidableEq, Repr

def Stretch.choose (h v hMax vMax width height : Nat) : Except ReadFailure Stretch :=
  let h1 := h = hMax ∨ width = 1
  let v1 := v = vMax ∨ height = 1
  let h2 := h * 2 = hMax
  let v2 := v * 2 = vMax
  if h1 ∧ v1 then .ok .same
  else if h2 ∧ v1 then .ok .wide
  else if h1 ∧ v2 then .ok .tall
  else if h2 ∧ v2 then .ok .wideTall
  else if hMax % h ≠ 0 ∨ vMax % v ≠ 0 then .error (.unsupported "NonIntegerSubsamplingRatio")
  else .ok (.repeated (hMax / h) (vMax / v))

/-- The rows an output row blends when rows are doubled: the source row `row / 2`, and the one
above it for an even row (the first row pairs with itself) or below it for an odd row, kept
within the component's `rows`. -/
def rowPair (row rows : Nat) : Nat × Nat :=
  let k := row / 2
  if row % 2 = 0 then (k, if k = 0 then 0 else min (k - 1) (rows - 1))
  else (k, min (k + 1) (rows - 1))

/-- The stretched sample at column `x` of output row `row`, for a component of `cols` by `rows`
samples. -/
def Stretch.sample (s : Stretch) (p : Plane) (cols rows row x : Nat) : Nat :=
  match s with
  | .same => p.sample x row
  | .wide =>
    let a (j : Nat) := p.sample j row
    if cols = 1 ∨ x = 0 then a 0
    else if x = 2 * cols - 1 then a (cols - 1)
    else if x % 2 = 0 then (3 * a (x / 2) + a (x / 2 - 1) + 2) / 4
    else (3 * a (x / 2) + a (x / 2 + 1) + 2) / 4
  | .tall =>
    let (n, f) := rowPair row rows
    (3 * p.sample x n + p.sample x f + 2) / 4
  | .wideTall =>
    let (n, f) := rowPair row rows
    let t (j : Nat) := 3 * p.sample j n + p.sample j f
    if cols = 1 ∨ x = 0 then (t 0 + 2) / 4
    else if x = 2 * cols - 1 then (t (cols - 1) + 2) / 4
    else if x % 2 = 1 then (3 * t (x / 2) + t (x / 2 + 1) + 8) / 16
    else (3 * t (x / 2) + t (x / 2 - 1) + 8) / 16
  | .repeated h v => p.sample (x / h) (row / v)

inductive ColorSpace where
  | gray
  | ycbcr
  | ycck
  | cmyk
  | rgb
  | bigGamutYcc
  | bigGamutRgb
  deriving DecidableEq, Repr

def ColorSpace.of (ids : List Nat) (jfif : Bool) (adobe : Option Nat) : ColorSpace :=
  let three := ids.length = 3
  let named : Option ColorSpace :=
    if !three then none
    else if ids = [1, 2, 3] then some .ycbcr
    else if ids = [1, 34, 35] then some .bigGamutYcc
    else if ids = [82, 71, 66] then some .rgb
    else if ids = [114, 103, 98] then some .bigGamutRgb
    else if jfif then some .ycbcr
    else none
  if ids.length = 1 then .gray
  else match named with
    | some c => c
    | none =>
      match adobe with
      | some 0 => if three then .rgb else .cmyk
      | some 1 => .ycbcr
      | some 2 => .ycck
      | _ => if three then .ycbcr else .cmyk

def ColorSpace.name : ColorSpace → String
  | .gray => "Grayscale"
  | .ycbcr => "YCbCr"
  | .ycck => "YCCK"
  | .cmyk => "CMYK"
  | .rgb => "RGB"
  | .bigGamutYcc => "JcsBgYcc"
  | .bigGamutRgb => "JcsBgRgb"

def ColorSpace.check (c : ColorSpace) (count : Nat) : Except ReadFailure Unit :=
  let wrong := .malformed ("Invalid number of channels (" ++ toString count ++ ") for " ++ c.name ++ " data")
  match c with
  | .bigGamutYcc | .bigGamutRgb => .error (.unsupported ("ColorTransform(" ++ c.name ++ ")"))
  | .gray => if count = 1 then .ok () else .error wrong
  | .ycbcr | .rgb => if count = 3 then .ok () else .error wrong
  | .ycck | .cmyk => if count = 4 then .ok () else .error wrong

def clampByte (v : Int) : UInt8 := (max 0 (min 255 v)).toNat.toUInt8

/-- Y, Cb, Cr to red, green and blue with 20 fraction bits: the factors 1.402, 0.34414, 0.71414
and 1.772 are taken as single-precision values times `2^20`, rounded half up, and the sums are
rounded down after adding half to the scaled Y. -/
def ycbcrToRgb (y cb cr : Nat) : UInt8 × UInt8 × UInt8 :=
  let yy : Int := (y : Int) * 1048576 + 524288
  let cb : Int := (cb : Int) - 128
  let cr : Int := (cr : Int) - 128
  (clampByte ((yy + 1470104 * cr) / 1048576), clampByte ((yy - 360857 * cb - 748830 * cr) / 1048576),
    clampByte ((yy + 1858077 * cb) / 1048576))

/-- Y, Cb, Cr to red, green and blue as eight 16-bit lanes compute it: values scaled by 64,
saturating sums, and products by the fractional parts of the factors with rounded high halves. -/
def ycbcrToRgbLanes (y cb cr : Nat) : UInt8 × UInt8 × UInt8 :=
  let y := sat16 ((y : Int) * 64 + 32)
  let cb := sat16 ((cb : Int) * 64 - 8192)
  let cr := sat16 ((cr : Int) * 64 - 8192)
  let r := sat16 (y + sat16 (mulRound cr 13173 + cr))
  let g := sat16 (y - sat16 (mulRound cb 11276 + mulRound cr 23401))
  let b := sat16 (y + sat16 (mulRound cb 25297 + cb))
  (clampByte (r / 64), clampByte (g / 64), clampByte (b / 64))

def scaledByLast (c m y k : Nat) : Pixel :=
  ⟨(c * k / 255).toUInt8, (m * k / 255).toUInt8, (y * k / 255).toUInt8, 255⟩

/-- The pixel at column `x` from the stretched samples of the components there. A row of
`width` pixels converts its first `8 * (width / 8 - 1)` pixels in lanes. -/
def pixelOf (space : ColorSpace) (width x : Nat) (s : Nat → Nat) : Pixel :=
  match space with
  | .gray => let v := (s 0).toUInt8; ⟨v, v, v, 255⟩
  | .rgb => ⟨(s 0).toUInt8, (s 1).toUInt8, (s 2).toUInt8, 255⟩
  | .ycbcr =>
    let (r, g, b) := if x < 8 * (width / 8 - 1) then ycbcrToRgbLanes (s 0) (s 1) (s 2)
      else ycbcrToRgb (s 0) (s 1) (s 2)
    ⟨r, g, b, 255⟩
  | .cmyk => scaledByLast (s 0) (s 1) (s 2) (s 3)
  | .ycck =>
    let (r, g, b) := ycbcrToRgb (s 0) (s 1) (s 2)
    scaledByLast (255 - r.toNat) (255 - g.toNat) (255 - b.toNat) (s 3)
  | .bigGamutYcc | .bigGamutRgb => ⟨0, 0, 0, 255⟩

/-- The image from its component planes, with alpha 255. A single component is taken as it is;
otherwise each component is stretched by its rule and the colour space converted. -/
def assemble (f : FrameHeader) (space : ColorSpace) (planes : Array Plane) : Except ReadFailure Frame := do
  let count := f.components.size
  if count ≠ 1 then space.check count
  let stretches ← f.components.mapM fun c => Stretch.choose c.h c.v f.hMax f.vMax f.width f.height
  let space := if count = 1 then .gray else space
  pure (Frame.ofFn f.width f.height fun i =>
    let x := i % f.width
    let y := i / f.width
    pixelOf space f.width x fun k =>
      let c := f.components.getD k ⟨0, 1, 1, 0⟩
      let p := planes.getD k ⟨0, #[]⟩
      if count = 1 then p.sample x y
      else (stretches.getD k .same).sample p (f.sampleCols c) (f.sampleRows c) y x)

end Glitch.Jpeg
